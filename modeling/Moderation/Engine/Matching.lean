import Moderation.Engine.Context

/-!
Whether a rule is tried at all, and whether it matches a text once that has been prepared for it.
-/
namespace Moderation

/-- Whether a rule is not tried on the texts of a player. -/
def Rule.skips (r : Rule) (kind : EventKind) (actor : Actor) : Bool :=
  r.ignoredEvent == some kind || r.ignoredModes.contains actor.mode ||
    r.bypass.any actor.holds

namespace Engine.Context

/-- A text with what a rule strips or replaces before it is matched. -/
def preprocess (ctx : Context) (pace : Pace) (r : Rule) (text : String) : Work String := do
  let text ← match r.stripBefore with
    | some pattern => ctx.budget.replace pace.strip .exact pattern text ""
    | none => pure text
  match r.replaceBefore with
  | some (pattern, replacement) =>
    ctx.budget.replace pace.replaceBefore .exact pattern text replacement
  | none => pure text

def eraseIgnored (ctx : Context) (pace : Pace) (r : Rule) (text : String) : Work String := do
  match r.ignoredMessage with
  | none => return text
  | some ignored =>
    if ← ctx.budget.isMatch pace.ignore ignored text then
      .say .debug "Erasing ignored text before matching" [("ignored", ignored), ("message", text)]
      ctx.budget.replace pace.erase .normalized ignored text ""
    else return text

def ruleMatches (ctx : Context) (pace : Pace) (r : Rule) (text : String) : Work Bool := do
  let text ← ctx.preprocess pace r text
  let text ← ctx.eraseIgnored pace r text
  ctx.budget.isMatch pace.search r.pattern text

theorem ruleMatches_of_plain {r : Rule} (hs : r.stripBefore = none) (hr : r.replaceBefore = none)
    (hi : r.ignoredMessage = none) (ctx : Context) (pace : Pace) (text : String) :
    ctx.ruleMatches pace r text = ctx.budget.isMatch pace.search r.pattern text := by
  simp [ruleMatches, preprocess, eraseIgnored, hs, hr, hi]

end Engine.Context

end Moderation
