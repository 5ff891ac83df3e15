import Moderation.Rule.Basic

/-!
Directives: the single things that can be written about a rule, each at most once.
-/
namespace Moderation

inductive PacketDirective
  | deny
  | quiet
  | replace (text : String)
  | rewrite (text : String)
  | rewriteIn (world text : String)
deriving DecidableEq, Repr

/-- Something written about a rule. -/
inductive Directive
  | id (id : String)
  | ignoreMessage (pattern : String)
  | bypass (permission : String)
  | ignoreEvent (kind : EventKind)
  | ignoreModes (modes : List GameMode)
  | stripBefore (pattern : String)
  | replaceBefore (pattern replacement : String)
  | replace (alternatives : List String)
  | rewrite (alternatives : List String)
  | run (commands : List String)
  | warn (message : String)
  | notify (permission message : String)
  | kick (message : String)
  | handle (handler : Handler)
  | deny
  | log
  | fine (amount : Binary64)
  | packet (directive : PacketDirective)
deriving DecidableEq, Repr

/-- What a player who is kicked is told if nothing is given. -/
def defaultKick : String := "Kicked from the server"

def PacketDirective.title : PacketDirective → String
  | .deny => "deny"
  | .quiet => "dont verbose"
  | .replace _ => "replace"
  | .rewrite _ => "rewrite"
  | .rewriteIn .. => "rewrite in world"

/-- The name of what a directive sets, in messages. -/
def Directive.title : Directive → String
  | .id _ => "ID"
  | .ignoreMessage _ => "ignored message"
  | .bypass _ => "bypass permission"
  | .ignoreEvent _ => "ignored event"
  | .ignoreModes _ => "ignored gamemodes"
  | .stripBefore _ => "strip before"
  | .replaceBefore .. => "replace before"
  | .replace _ => "replacement"
  | .rewrite _ => "rewrite"
  | .run _ => "console commands"
  | .warn _ => "warn message"
  | .notify .. => "custom notify"
  | .kick _ => "kick message"
  | .handle _ => "handler"
  | .deny => "deny"
  | .log => "log"
  | .fine _ => "fine"
  | .packet d => d.title

/-- Put a pair into a list in the order of its first parts. -/
def insertSorted (key value : String) : List (String × String) → List (String × String)
  | [] => [(key, value)]
  | e :: r => if e.1 < key then e :: insertSorted key value r else (key, value) :: e :: r

namespace PacketRule

def isSet (p : PacketRule) : PacketDirective → Bool
  | .deny => p.denies
  | .quiet => p.quiet
  | .replace _ => p.replace.isSome
  | .rewrite _ => p.rewrite.isSome
  | .rewriteIn world _ => (p.rewriteIn.lookup world).isSome

def set (p : PacketRule) : PacketDirective → PacketRule
  | .deny => { p with denies := true }
  | .quiet => { p with quiet := true }
  | .replace text => { p with replace := some text }
  | .rewrite text => { p with rewrite := some text }
  | .rewriteIn world text => { p with rewriteIn := insertSorted world text p.rewriteIn }

end PacketRule

namespace Draft

def isSet (r : Draft) : Directive → Bool
  | .id _ => r.id.isSome
  | .ignoreMessage _ => r.ignoredMessage.isSome
  | .bypass _ => r.bypass.isSome
  | .ignoreEvent _ => r.ignoredEvent.isSome
  | .ignoreModes _ => r.ignoredModes.isSome
  | .stripBefore _ => r.stripBefore.isSome
  | .replaceBefore .. => r.replaceBefore.isSome
  | .replace _ => r.replacements.isSome
  | .rewrite _ => r.rewrites.isSome
  | .run _ => r.commands.isSome
  | .warn _ => r.warning.isSome
  | .notify .. => r.notice.isSome
  | .kick _ => r.kick.isSome
  | .handle _ => r.handler.isSome
  | .deny => r.cancels
  | .log => r.logs
  | .fine _ => r.fine.isSome
  | .packet d => (r.packet.getD {}).isSet d

/-- The rule with what a directive sets. A directive for outgoing texts makes it a rule for them. -/
def set (r : Draft) : Directive → Draft
  | .id id => { r with id := some id }
  | .ignoreMessage pattern => { r with ignoredMessage := some pattern }
  | .bypass permission => { r with bypass := some permission }
  | .ignoreEvent kind => { r with ignoredEvent := some kind }
  | .ignoreModes modes => { r with ignoredModes := some modes }
  | .stripBefore pattern => { r with stripBefore := some pattern }
  | .replaceBefore pattern replacement => { r with replaceBefore := some (pattern, replacement) }
  | .replace alternatives => { r with replacements := some alternatives }
  | .rewrite alternatives => { r with rewrites := some alternatives }
  | .run commands => { r with commands := some commands }
  | .warn message => { r with warning := some message }
  | .notify permission message => { r with notice := some ⟨permission, message⟩ }
  | .kick message => { r with kick := some (if message = "" then defaultKick else message) }
  | .handle handler => { r with handler := some handler }
  | .deny => { r with cancels := true }
  | .log => { r with logs := true }
  | .fine amount => { r with fine := some amount }
  | .packet d => { r with packet := some ((r.packet.getD {}).set d) }

/-- Add a directive, unless what it sets is set. -/
def add? (r : Draft) (d : Directive) : Option Draft := if r.isSet d then none else some (r.set d)

/-- The rule as a directive finds it. The part for outgoing texts is there as soon as a directive looks
into it. -/
def reached (r : Draft) : Directive → Draft
  | .packet _ => { r with packet := some (r.packet.getD {}) }
  | _ => r

/-- Offer a directive to a rule: the name of what it sets if that is set, and the rule after that. -/
def offer (r : Draft) (d : Directive) : Option String × Draft :=
  let r := r.reached d
  if r.isSet d then (some d.title, r) else (none, r.set d)

@[simp] theorem pattern_set (r : Draft) (d : Directive) : (r.set d).pattern = r.pattern := by
  cases d <;> rfl

theorem add?_eq_none_iff {r : Draft} {d : Directive} : r.add? d = none ↔ r.isSet d = true := by
  simp [add?]

end Draft

end Moderation
