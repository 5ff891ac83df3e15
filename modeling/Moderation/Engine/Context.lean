import Moderation.Actor
import Moderation.Engine.Guard
import Moderation.Rule.Description

/-!
What a text is tried against beside the rules: the settings, the players who are online, and the library
that reads patterns.
-/
namespace Moderation.Engine

/-- The settings of the engine, the players who are online, and the library for patterns. -/
structure Context where
  settings : Settings
  online : List Actor
  library : Regex.Library := {}

/-- One of several alternatives, as a roll of the dice says; none if there are none. -/
def pick (roll : Nat) (alternatives : List String) : Option String :=
  alternatives[roll % alternatives.length]?

namespace Context

def budget (ctx : Context) : Budget :=
  ⟨ctx.settings.timeout, ctx.settings.backtrackLimit, ctx.library⟩

def holders (ctx : Context) (permission : String) : List Actor :=
  ctx.online.filter (·.holds permission)

/-- A line about rules that match; the settings say how much weight it has. -/
def line (ctx : Context) (text : String) : Effect :=
  .log ⟨if ctx.settings.verbose then .info else .debug, text, []⟩

def matchLines (ctx : Context) (headline : String) (r : Rule) (text : String) : List Effect :=
  [ctx.line headline,
   ctx.line ("MATCH: " ++ if ctx.settings.debug then r.describe else r.pattern),
   ctx.line ("CATCH: " ++ text)]

end Context

@[simp] theorem pick_nil (roll : Nat) : pick roll [] = none := rfl

@[simp] theorem pick_singleton (roll : Nat) (a : String) : pick roll [a] = some a := by
  simp [pick, Nat.mod_one]

theorem mem_of_pick {roll : Nat} {l : List String} {a : String} (h : pick roll l = some a) : a ∈ l :=
  List.mem_of_getElem? h

theorem isSome_pick {l : List String} (h : l ≠ []) (roll : Nat) : (pick roll l).isSome = true := by
  have := Nat.mod_lt roll (List.length_pos_iff.2 h)
  simp [pick, this]


end Moderation.Engine
