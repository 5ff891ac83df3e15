import Moderation.Actor
import Moderation.Category
import Moderation.Handler.Basic
import Moderation.Placeholders

/-!
Rules: a pattern, what has to hold for the rule to be tried, what is done to the text before it is
matched, and what happens on a match.
-/
namespace Moderation

/-- A message for the players online who hold a permission. -/
structure Notice where
  permission : String
  message : String
deriving DecidableEq, Repr

/-- What a rule does to outgoing texts. The rewrites for single worlds are in the order of their
worlds. -/
structure PacketRule where
  denies : Bool := false
  replace : Option String := none
  rewrite : Option String := none
  rewriteIn : List (String × String) := []
  quiet : Bool := false
deriving DecidableEq, Repr

structure Rule where
  pattern : String
  id : Option String := none
  ignoredMessage : Option String := none
  bypass : Option String := none
  ignoredEvent : Option EventKind := none
  ignoredModes : List GameMode := []
  stripBefore : Option String := none
  replaceBefore : Option (String × String) := none
  replacements : List String := []
  rewrites : List String := []
  commands : List String := []
  warning : Option String := none
  notice : Option Notice := none
  kick : Option String := none
  handler : Option Handler := none
  cancels : Bool := false
  logs : Bool := false
  fine : Option Binary64 := none
  packet : Option PacketRule := none
deriving DecidableEq, Repr

/-- A rule that is still being written. What was not written is absent, lists included. -/
structure Draft where
  pattern : String
  id : Option String := none
  ignoredMessage : Option String := none
  bypass : Option String := none
  ignoredEvent : Option EventKind := none
  ignoredModes : Option (List GameMode) := none
  stripBefore : Option String := none
  replaceBefore : Option (String × String) := none
  replacements : Option (List String) := none
  rewrites : Option (List String) := none
  commands : Option (List String) := none
  warning : Option String := none
  notice : Option Notice := none
  kick : Option String := none
  handler : Option Handler := none
  cancels : Bool := false
  logs : Bool := false
  fine : Option Binary64 := none
  packet : Option PacketRule := none
deriving DecidableEq, Repr

namespace Rule

def isPacketRule (r : Rule) : Bool := r.packet.isSome

def name (r : Rule) : String := r.id.getD unnamedRule

def short (r : Rule) : String :=
  (if r.isPacketRule then "PacketRule" else "Rule") ++ " \x7b" ++
    (match r.id with
    | some id => "ID=" ++ id ++ ","
    | none => "") ++
    "Match='" ++ r.pattern ++ "'\x7d"

end Rule

namespace Draft

/-- A rule for outgoing texts before anything but its pattern is written. -/
def forPackets (pattern : String) : Draft := { pattern, packet := some {} }

/-- A rule of a category before anything but its pattern is written. -/
def opened (c : Category) (pattern : String) : Draft :=
  if c = .packet then forPackets pattern else { pattern }

def isPacketRule (r : Draft) : Bool := r.packet.isSome

/-- The rule that was written. Lists that were not written are empty. -/
def build (r : Draft) : Rule where
  pattern := r.pattern
  id := r.id
  ignoredMessage := r.ignoredMessage
  bypass := r.bypass
  ignoredEvent := r.ignoredEvent
  ignoredModes := r.ignoredModes.getD []
  stripBefore := r.stripBefore
  replaceBefore := r.replaceBefore
  replacements := r.replacements.getD []
  rewrites := r.rewrites.getD []
  commands := r.commands.getD []
  warning := r.warning
  notice := r.notice
  kick := r.kick
  handler := r.handler
  cancels := r.cancels
  logs := r.logs
  fine := r.fine
  packet := r.packet

@[simp] theorem isPacketRule_forPackets (pattern : String) :
    (forPackets pattern).isPacketRule = true := rfl

@[simp] theorem isPacketRule_opened (c : Category) (pattern : String) :
    (opened c pattern).isPacketRule = decide (c = .packet) := by
  cases c <;> rfl

@[simp] theorem pattern_opened (c : Category) (pattern : String) :
    (opened c pattern).pattern = pattern := by
  cases c <;> rfl

@[simp] theorem isPacketRule_build (r : Draft) : r.build.isPacketRule = r.isPacketRule := rfl

end Draft

end Moderation
