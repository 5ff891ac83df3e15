import Moderation.Engine.Evaluation
import Moderation.Host
import Moderation.LogFile
import Moderation.Packet.Rewrite
import Moderation.Rule.Loader

/-!
A server with an engine: the rules that are in force, the effects that are carried out, and those that
wait.
-/
namespace Moderation.Engine

/-- Where audit entries go: into a list, or into log files. -/
inductive AuditTrail
  | memory (entries : List AuditEntry)
  | files (disk : Disk)
deriving DecidableEq, Repr

/-- What happened on a server, what was logged, and what was counted. -/
structure Journal where
  events : List Event := []
  log : List LogEntry := []
  counts : List (Counter × Nat) := []
deriving DecidableEq, Repr

/-- A server. `time` is the time as log files show it. After a crash the program has ended, and nothing that
follows takes place. -/
structure Server where
  settings : Settings
  rules : RuleSet
  audit : AuditTrail
  time : String
  state : State := {}
  host : Host := {}
  queue : List (Nat × Action) := []
  totals : Totals := {}
  journal : Journal := {}
  library : Regex.Library := {}
  crashed : Bool := false

namespace Server

def context (s : Server) : Context := ⟨s.settings, s.host.online, s.library⟩

def note (s : Server) (e : Event) : Server :=
  { s with journal := { s.journal with events := s.journal.events ++ [e] } }

def say (s : Server) (entries : List LogEntry) : Server :=
  { s with journal := { s.journal with log := s.journal.log ++ entries } }

def perform (s : Server) (a : Action) : Server :=
  { s.note (s.host.event a) with host := s.host.perform a }

def absorb (s : Server) : Effect → Server
  | .act a => s.perform a
  | .later ticks a => { s.note (.queued ticks) with queue := s.queue ++ [(ticks, a)] }
  | .audit e =>
    match s.audit with
    | .memory entries => { s.note (.audited e) with audit := .memory (entries ++ [e]) }
    | .files disk =>
      let recorded := s.settings.writer.record s.time e disk
      { s.say [recorded.2] with audit := .files recorded.1 }
  | .count c =>
    { s with
      totals := s.totals.add c
      journal := { s.journal with counts := addCount c s.journal.counts } }
  | .log e => s.say [e]
  | .crash => { s with crashed := true }

def absorbAll (s : Server) (es : List Effect) : Server := es.foldl absorb s

def run {α : Type} (s : Server) (w : Work α) : α × Server :=
  let done := w s.state
  (done.value, { s with state := done.state }.absorbAll done.effects)

def evaluate (s : Server) (kind : EventKind) (actor : Actor) (text : String) : Evaluation × Server :=
  s.run (s.context.evaluate s.rules kind actor text)

def rewritePacket (s : Server) (actor : Actor) (tree : Tree) : Option Tree × Server :=
  s.run (s.context.rewritePacket s.rules actor tree)

def rewriteLeaf (s : Server) (actor : Actor) (text : String) : Option String × Server :=
  s.run (s.context.rewriteLeaf s.rules actor text)

/-- Do what waits, in the order in which it came, and say how much that was. -/
def runPending (s : Server) : Nat × Server :=
  (s.queue.length, s.queue.foldl (fun s (_, a) => s.perform a) { s with queue := [] })

/-- Put rules in force. What was compiled for other rules is dropped. -/
def publish (s : Server) (rules : RuleSet) : Server := 
  { s with rules, state := { s.state with compiled := [] } }

/-- Load a folder and put its rules in force. If that fails the rules stay as they are. -/
def reload (s : Server) (l : Loader) (f : Folder) : Except LoadError Unit × Folder × Server :=
  let (result, shelf) := (l.load.run).run { folder := f }
  let s := s.say shelf.log
  match result with
  | .ok rules =>
    (.ok (), shelf.folder, (s.publish rules).say
      [⟨.info, "Reloaded rules", [("rules", toString rules.size), ("dir", l.path)]⟩])
  | .error e => (.error e, shelf.folder, s)

/-- After a failed reload the rules and what was compiled are as before. -/
theorem reload_error {s : Server} {l : Loader} {f : Folder} {e : LoadError}
    (h : (s.reload l f).1 = .error e) :
    (s.reload l f).2.2.rules = s.rules ∧ (s.reload l f).2.2.state = s.state := by
  unfold reload at h ⊢
  generalize (l.load.run).run { folder := f } = x at h ⊢
  obtain ⟨r, shelf⟩ := x
  cases r with
  | ok rules => simp at h
  | error e' => exact ⟨rfl, rfl⟩

end Server

end Moderation.Engine
