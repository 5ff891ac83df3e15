import Moderation.Number.Binary64

/-!
Handlers: bundles of effects that rules refer to by name.
-/
namespace Moderation

inductive Outcome
  | pass
  | block
  | replaceWord (word : String)
  | replaceWhole (text : String)
deriving DecidableEq, Repr

/-- A message for every player online who holds a permission. -/
structure StaffAlert where
  message : String
  permission : String
deriving DecidableEq, Repr

/-- A handler. It never acts on commands that begin with one of its ignored beginnings. -/
structure Handler where
  name : String
  bypass : Option String := none
  ignoredCommands : List String := []
  warning : Option String := none
  broadcast : Option String := none
  alert : Option StaffAlert := none
  console : Option String := none
  commands : List String := []
  file : Option String := none
  outcome : Outcome := .pass
  fine : Option Binary64 := none
deriving DecidableEq, Repr

def Handler.blocks (h : Handler) : Bool := h.outcome == .block

end Moderation
