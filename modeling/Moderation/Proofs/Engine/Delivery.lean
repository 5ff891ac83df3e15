import Mathlib.Data.List.DropRight
import Moderation.Proofs.Engine.Server

/-!
What becomes of messages and commands. What is to come later waits, and the next time the server does
what waits it is done, once and in its turn. A message gets to its player exactly if the player is
online when it is sent.
-/
namespace Moderation

/-! ### Events -/

namespace Event

/-- What is done in an event. -/
def action? : Event → Option Action
  | .told player message _ => some (.tell player message)
  | .broadcast message => some (.broadcast message)
  | .command c => some (.command c)
  | .withdrawn player amount => some (.withdraw player amount)
  | .queued _ | .audited _ => none

/-- The message of an event and the player who gets it. -/
def delivery? : Event → Option (String × String)
  | .told player message true => some (player, message)
  | _ => none

def broadcast? : Event → Option String
  | .broadcast message => some message
  | _ => none

def command? : Event → Option String
  | .command c => some c
  | _ => none

def withdrawal? : Event → Option (String × Binary64)
  | .withdrawn player amount => some (player, amount)
  | _ => none

end Event

namespace Effect

/-- What an effect does at once. -/
def act? : Effect → Option Action
  | .act a => some a
  | _ => none

/-- What an effect leaves for later. -/
def later? : Effect → Option Action
  | .later _ a => some a
  | _ => none

end Effect

/-- Whether the records of a host are those of events. -/
structure Host.Records (h : Host) (es : List Event) : Prop where
  told : h.told = es.filterMap Event.delivery?
  broadcasts : h.broadcasts = es.filterMap Event.broadcast?
  commands : h.commands = es.filterMap Event.command?
  withdrawals : h.withdrawals = es.filterMap Event.withdrawal?

namespace Engine.Server
variable {s t u : Server} {es fs : List Event}

/-- The server has come to another state by events: they are added to the journal and to the records
of the host, and a message is delivered exactly if its player is online. -/
structure Reaches (s : Server) (es : List Event) (s' : Server) : Prop where
  events : s'.journal.events = s.journal.events ++ es
  told : s'.host.told = s.host.told ++ es.filterMap Event.delivery?
  broadcasts : s'.host.broadcasts = s.host.broadcasts ++ es.filterMap Event.broadcast?
  commands : s'.host.commands = s.host.commands ++ es.filterMap Event.command?
  withdrawals : s'.host.withdrawals = s.host.withdrawals ++ es.filterMap Event.withdrawal?
  delivered : ∀ player message d, .told player message d ∈ es → d = s.host.isOnline player

/-- What waits on a server, in the order in which it came. -/
def waiting (s : Server) : List Action := s.queue.map Prod.snd

namespace Reaches

/-- Nothing has happened to the records. -/
theorem nil (hevents : t.journal.events = s.journal.events) (htold : t.host.told = s.host.told)
    (hbroadcasts : t.host.broadcasts = s.host.broadcasts)
    (hcommands : t.host.commands = s.host.commands)
    (hwithdrawals : t.host.withdrawals = s.host.withdrawals) : s.Reaches [] t := by
  constructor <;> simp [*]

theorem refl (s : Server) : s.Reaches [] s := .nil rfl rfl rfl rfl rfl

theorem trans (h : s.Reaches es t) (ho : t.host.online = s.host.online) (h' : t.Reaches fs u) :
    s.Reaches (es ++ fs) u where
  events := by rw [h'.events, h.events, List.append_assoc]
  told := by rw [h'.told, h.told, List.filterMap_append, List.append_assoc]
  broadcasts := by rw [h'.broadcasts, h.broadcasts, List.filterMap_append, List.append_assoc]
  commands := by rw [h'.commands, h.commands, List.filterMap_append, List.append_assoc]
  withdrawals := by rw [h'.withdrawals, h.withdrawals, List.filterMap_append, List.append_assoc]
  delivered player message d hd := by
    rcases List.mem_append.1 hd with hd | hd
    · exact h.delivered player message d hd
    · rw [h'.delivered player message d hd, Host.isOnline, Host.isOnline, ho]

/-- An event in which nothing is done comes into no record. -/
theorem note {e : Event} (he : e.action? = none)
    (hevents : t.journal.events = s.journal.events ++ [e]) (hhost : t.host = s.host) :
    s.Reaches [e] t := by
  cases e with
  | told | broadcast | command | withdrawn => cases he
  | queued | audited =>
    constructor <;> simp [hevents, hhost, Event.delivery?, Event.broadcast?, Event.command?,
      Event.withdrawal?]

/-- The records stay those of the events. -/
theorem records (h : s.Reaches es t) (hs : s.host.Records s.journal.events) :
    t.host.Records t.journal.events := by
  constructor <;> rw [h.events, List.filterMap_append]
  · rw [h.told, hs.told]
  · rw [h.broadcasts, hs.broadcasts]
  · rw [h.commands, hs.commands]
  · rw [h.withdrawals, hs.withdrawals]

end Reaches

variable (s : Server)

/-! ### Effects -/

lemma reaches_perform (a : Action) : s.Reaches [s.host.event a] (s.perform a) := by
  cases a with
  | tell player message =>
    cases hp : s.host.isOnline player <;> constructor <;>
      simp [perform, note, Host.event, Host.perform, Event.delivery?, Event.broadcast?,
        Event.command?, Event.withdrawal?, hp]
  | broadcast | command | withdraw =>
    constructor <;> simp [perform, note, Host.event, Host.perform, Event.delivery?,
      Event.broadcast?, Event.command?, Event.withdrawal?]

@[simp] lemma action?_event (h : Host) (a : Action) : (h.event a).action? = some a := by
  cases a <;> rfl

lemma exists_reaches_absorb (e : Effect) :
    ∃ es, s.Reaches es (s.absorb e) ∧ es.filterMap Event.action? = e.act?.toList := by
  cases e with
  | act a => exact ⟨_, s.reaches_perform a, by simp [Effect.act?]⟩
  | later ticks a => exact ⟨[.queued ticks], .note rfl rfl rfl, rfl⟩
  | audit e =>
    obtain ⟨settings, rules, audit, time, state, host, queue, totals, journal, library, crashed⟩ := s
    cases audit with
    | memory entries => exact ⟨[.audited e], .note rfl rfl rfl, rfl⟩
    | files disk => exact ⟨[], .nil rfl rfl rfl rfl rfl, rfl⟩
  | count | log | crash => exact ⟨[], .nil rfl rfl rfl rfl rfl, rfl⟩

lemma exists_reaches_absorbAll (effects : List Effect) :
    ∃ es, s.Reaches es (s.absorbAll effects) ∧
      es.filterMap Event.action? = effects.filterMap Effect.act? := by
  induction effects generalizing s with
  | nil => exact ⟨[], .refl s, rfl⟩
  | cons e effects ih =>
    obtain ⟨es, hfirst, hact⟩ := s.exists_reaches_absorb e
    obtain ⟨fs, hrest, hacts⟩ := ih (s.absorb e)
    refine ⟨es ++ fs, hfirst.trans (s.sameGround_absorb e).online hrest, ?_⟩
    rw [List.filterMap_append, hact, hacts, List.filterMap_cons]
    cases e.act? <;> rfl

@[simp] lemma waiting_absorb (e : Effect) :
    (s.absorb e).waiting = s.waiting ++ e.later?.toList := by
  obtain ⟨settings, rules, audit, time, state, host, queue, totals, journal, library, crashed⟩ := s
  cases e with
  | audit e => cases audit <;> simp [absorb, waiting, note, say, Effect.later?]
  | act | later | count | log | crash => simp [absorb, waiting, perform, note, say, Effect.later?]

lemma waiting_absorbAll (effects : List Effect) :
    (s.absorbAll effects).waiting = s.waiting ++ effects.filterMap Effect.later? := by
  induction effects generalizing s with
  | nil => simp [absorbAll]
  | cons e effects ih =>
    rw [absorbAll, List.foldl_cons, ← absorbAll, ih, waiting_absorb, List.append_assoc,
      List.filterMap_cons]
    cases e.later? <;> rfl

lemma runPending_eq :
    s.runPending.2 = { s with queue := [] }.absorbAll (s.waiting.map Effect.act) := by
  simp only [runPending, absorbAll, waiting, List.map_map, List.foldl_map]
  rfl

end Engine.Server

/-! ### Requests -/

namespace Engine

/-- What is asked of a server. In an evaluation chance brings what it likes. -/
inductive Request
  | join (actor : Actor)
  | quit (name : String)
  | evaluate (clock : List Pace) (dice : List Rolls) (kind : EventKind) (actor : Actor)
    (text : String)
  | runPending

namespace Request

def isRunPending : Request → Bool
  | .runPending => true
  | _ => false

/-- The name of the player who comes or goes. -/
def player? : Request → Option String
  | .join actor => some actor.name
  | .quit name => some name
  | _ => none

end Request

/-- Whether a player has come and has neither gone nor come anew since. -/
def IsIn (rs : List Request) (a : Actor) : Prop :=
  ∃ before after, rs = before ++ .join a :: after ∧ ∀ r ∈ after, r.player? ≠ some a.name

namespace Server
variable (s : Server) (r : Request) (rs : List Request)

/-- A server to which chance is to bring something. -/
def withChance (s : Server) (clock : List Pace) (dice : List Rolls) : Server :=
  s.withState { s.state with clock, dice }

def serve (s : Server) : Request → Server
  | .join actor => { s with host := s.host.join actor }
  | .quit name => { s with host := s.host.quit name }
  | .evaluate clock dice kind actor text => ((s.withChance clock dice).evaluate kind actor text).2
  | .runPending => s.runPending.2

def serveAll (s : Server) (rs : List Request) : Server := rs.foldl serve s

/-- The effects of the evaluation that is asked for. -/
def effectsOf (s : Server) : Request → List Effect
  | .evaluate clock dice kind actor text =>
    (s.context.evaluate s.rules kind actor text (s.withChance clock dice).state).effects
  | _ => []

/-- The events that a request adds to the journal. -/
def newEvents : List Event := (s.serve r).journal.events.drop s.journal.events.length

/-- What requests leave for later, in the order in which they do. -/
def deferred (s : Server) : List Request → List Action
  | [] => []
  | r :: rs => (s.effectsOf r).filterMap Effect.later? ++ (s.serve r).deferred rs

/-- What is done, in this order, when the server does what waits. -/
def executed (s : Server) : List Request → List Action
  | [] => []
  | r :: rs =>
    (if r.isRunPending then (s.newEvents r).filterMap Event.action? else []) ++
      (s.serve r).executed rs

/-- What a request does, when and for whom. -/
lemma exists_reaches_serve :
    ∃ es, s.Reaches es (s.serve r) ∧ es.filterMap Event.action? =
      if r.isRunPending then s.waiting else (s.effectsOf r).filterMap Effect.act? := by
  cases r with
  | join | quit => exact ⟨[], .nil rfl rfl rfl rfl rfl, rfl⟩
  | evaluate clock dice kind actor text =>
    obtain ⟨es, h, hes⟩ := (s.withChance clock dice).exists_reaches_absorbAll
      (s.effectsOf (.evaluate clock dice kind actor text))
    rw [serve, evaluate, run_eq]
    exact ⟨es, ⟨h.events, h.told, h.broadcasts, h.commands, h.withdrawals, h.delivered⟩, hes⟩
  | runPending =>
    obtain ⟨es, h, hes⟩ := exists_reaches_absorbAll { s with queue := [] }
      (s.waiting.map Effect.act)
    rw [serve, runPending_eq]
    refine ⟨es, ⟨h.events, h.told, h.broadcasts, h.commands, h.withdrawals, h.delivered⟩, ?_⟩
    simp [hes, Request.isRunPending, List.filterMap_map, Function.comp_def, Effect.act?]

lemma reaches_serve : s.Reaches (s.newEvents r) (s.serve r) := by
  obtain ⟨es, h, -⟩ := s.exists_reaches_serve r
  rwa [newEvents, h.events, List.drop_left]

lemma actions_newEvents : (s.newEvents r).filterMap Event.action? =
    if r.isRunPending then s.waiting else (s.effectsOf r).filterMap Effect.act? := by
  obtain ⟨es, h, hes⟩ := s.exists_reaches_serve r
  rwa [newEvents, h.events, List.drop_left]

lemma waiting_serve : (s.serve r).waiting =
    if r.isRunPending then [] else s.waiting ++ (s.effectsOf r).filterMap Effect.later? := by
  cases r with
  | join | quit => simp [serve, waiting, effectsOf, Request.isRunPending]
  | evaluate clock dice kind actor text =>
    rw [serve, evaluate, run_eq]
    exact (s.withChance clock dice).waiting_absorbAll _
  | runPending =>
    rw [serve, runPending_eq, waiting_absorbAll]
    simp [waiting, Request.isRunPending, List.filterMap_map, Function.comp_def, Effect.later?]

/-- Nothing is lost, repeated or moved: what waits and what is left for later has been done, or it
waits. -/
lemma waiting_append_deferred :
    s.waiting ++ s.deferred rs = s.executed rs ++ (s.serveAll rs).waiting := by
  induction rs generalizing s with
  | nil => simp [deferred, executed, serveAll]
  | cons r rs ih =>
    have hrest := ih (s.serve r)
    rw [waiting_serve] at hrest
    simp only [deferred, executed, actions_newEvents, serveAll, List.foldl_cons] at hrest ⊢
    cases r with
    | runPending => simpa [Request.isRunPending, effectsOf] using hrest
    | _ => simpa [Request.isRunPending] using hrest

variable (ss : List Request)

lemma serveAll_append : s.serveAll (rs ++ ss) = (s.serveAll rs).serveAll ss := List.foldl_append

lemma executed_append :
    s.executed (rs ++ ss) = s.executed rs ++ (s.serveAll rs).executed ss := by
  induction rs generalizing s with
  | nil => rfl
  | cons r rs ih => simp [executed, serveAll, ih, List.append_assoc]

/-- What is done later is all that was left for later up to the last time that the server did what
waits, in the same order. -/
theorem executed_eq (hw : s.waiting = []) :
    s.executed rs = s.deferred (rs.rdropWhile (!·.isRunPending)) := by
  induction rs using List.reverseRecOn with
  | nil => rfl
  | append_singleton rs r ih =>
    cases hr : r.isRunPending with
    | true =>
      rw [List.rdropWhile_concat_neg _ _ _ (by simp [hr])]
      have hnone : (s.serveAll (rs ++ [r])).waiting = [] := by
        rw [serveAll_append]
        exact (waiting_serve _ r).trans (if_pos hr)
      have hall := s.waiting_append_deferred (rs ++ [r])
      rw [hw, hnone, List.nil_append, List.append_nil] at hall
      exact hall.symm
    | false =>
      rw [List.rdropWhile_concat_pos _ _ _ (by simp [hr]), ← ih, executed_append]
      simp [executed, hr]

/-! ### Who is online -/

lemma isIn_concat {a : Actor} :
    IsIn (rs ++ [r]) a ↔ r = .join a ∨ IsIn rs a ∧ r.player? ≠ some a.name := by
  constructor
  · rintro ⟨before, after, hrs, hafter⟩
    rcases List.eq_nil_or_concat after with rfl | ⟨after, x, rfl⟩
    · obtain ⟨-, h⟩ := List.append_inj' hrs rfl
      exact .inl (List.singleton_inj.1 h)
    · rw [List.concat_eq_append] at hrs hafter
      rw [← List.cons_append, ← List.append_assoc] at hrs
      obtain ⟨hbefore, hx⟩ := List.append_inj' hrs rfl
      obtain rfl := List.singleton_inj.1 hx
      exact .inr ⟨⟨before, after, hbefore, fun x hx => hafter x (List.mem_append_left _ hx)⟩,
        hafter r (by simp)⟩
  · rintro (rfl | ⟨⟨before, after, rfl, hafter⟩, hr⟩)
    · exact ⟨rs, [], rfl, by simp⟩
    · refine ⟨before, after ++ [r], by simp, fun x hx => ?_⟩
      rcases List.mem_append.1 hx with hx | hx
      · exact hafter x hx
      · obtain rfl := List.mem_singleton.1 hx
        exact hr

lemma online_serve_of_stays (h : r.player? = none) :
    (s.serve r).host.online = s.host.online := by
  cases r with
  | join | quit => cases h
  | evaluate clock dice kind actor text => exact ((s.withChance clock dice).sameGround_run _).online
  | runPending =>
    rw [serve, runPending_eq]
    exact (sameGround_absorbAll { s with queue := [] } _).online

lemma mem_online_serve {a : Actor} : a ∈ (s.serve r).host.online ↔
    r = .join a ∨ a ∈ s.host.online ∧ r.player? ≠ some a.name := by
  cases r with
  | join b =>
    simp only [serve, Host.join, Host.quit, List.mem_append, List.mem_filter, bne_iff_ne,
      List.mem_singleton, Request.player?, Request.join.injEq, ne_eq, Option.some.injEq]
    rw [or_comm, eq_comm (a := a), eq_comm (a := a.name)]
  | quit name =>
    simp only [serve, Host.quit, List.mem_filter, bne_iff_ne, Request.player?, reduceCtorEq,
      false_or, ne_eq, Option.some.injEq, eq_comm (a := a.name)]
  | evaluate | runPending =>
    rw [online_serve_of_stays _ _ rfl]
    simp [Request.player?]

/-- Those are online who came last and have not gone since. -/
theorem mem_online_serveAll (h : s.host.online = []) {a : Actor} :
    a ∈ (s.serveAll rs).host.online ↔ IsIn rs a := by
  induction rs using List.reverseRecOn with
  | nil =>
    simp [serveAll, h, IsIn]
  | append_singleton rs r ih =>
    rw [isIn_concat, ← ih, serveAll_append]
    exact mem_online_serve ..

lemma nodup_serve (h : (s.host.online.map Actor.name).Nodup) :
    ((s.serve r).host.online.map Actor.name).Nodup := by
  have hquit (name : String) : ((s.host.quit name).online.map Actor.name).Nodup :=
    h.sublist (List.filter_sublist.map _)
  cases r with
  | join a =>
    -- nobody who stays has the name of the one who comes
    simp only [serve, Host.join, List.map_append, List.map_singleton]
    refine List.nodup_append.2 ⟨hquit a.name, by simp, fun name hname other hother => ?_⟩
    obtain ⟨b, hb, rfl⟩ := List.mem_map.1 hname
    obtain rfl := List.mem_singleton.1 hother
    simpa using (List.mem_filter.1 hb).2
  | quit name => exact hquit name
  | evaluate | runPending =>
    rw [online_serve_of_stays _ _ rfl]
    exact h

/-- No two players online have the same name. -/
theorem nodup_serveAll (h : (s.host.online.map Actor.name).Nodup) :
    ((s.serveAll rs).host.online.map Actor.name).Nodup := by
  induction rs generalizing s with
  | nil => exact h
  | cons r rs ih => exact ih (s.serve r) (s.nodup_serve r h)

/-! ### Records -/

lemma records_serveAll (h : s.host.Records s.journal.events) :
    (s.serveAll rs).host.Records (s.serveAll rs).journal.events := by
  induction rs generalizing s with
  | nil => exact h
  | cons r rs ih => exact ih (s.serve r) ((s.reaches_serve r).records h)

end Server

end Engine

end Moderation
