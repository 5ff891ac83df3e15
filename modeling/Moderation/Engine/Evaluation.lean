import Moderation.Engine.Firing
import Moderation.Rule.Set

/-!
The evaluation of a text: the general rules and then those of its own category are tried from first to
last, each on the text that the ones before it left, until one of them cancels.
-/
namespace Moderation.Engine

/-- What an evaluation comes to: the text after it, and whether the player is held back. -/
structure Evaluation where
  text : String
  cancelled : Bool
deriving DecidableEq, Repr

namespace Context

def tryRule (ctx : Context) (kind : EventKind) (actor : Actor) (r : Rule) (p : Pass) :
    Work Pass := do
  if r.skips kind actor then return p
  let chance ← .draw
  if ← ctx.ruleMatches chance.pace r p.text then ctx.fire chance r kind actor p else return p

/-- Rules tried from first to last until one of them cancels. -/
def tryRules (ctx : Context) (kind : EventKind) (actor : Actor) : List Rule → Pass → Work Pass
  | [], p => pure p
  | r :: rs, p => do
    let p ← ctx.tryRule kind actor r p
    if p.cancelled then return p else ctx.tryRules kind actor rs p

def tryCategory (ctx : Context) (rules : RuleSet) (kind : EventKind) (actor : Actor) (c : Category)
    (p : Pass) : Work Pass := do
  let rs := rules.get c
  .say .debug ("Checking " ++ c.title ++ " rules")
    [("category", c.title), ("rules", toString rs.length)]
  ctx.tryRules kind actor rs p

/-- The general rules and then those of the kind of event, until one of them cancels. -/
def tryAll (ctx : Context) (rules : RuleSet) (kind : EventKind) (actor : Actor) (p : Pass) :
    Work Pass := do
  let p ← ctx.tryCategory rules kind actor .general p
  if p.cancelled then return p else ctx.tryCategory rules kind actor kind.category p

def evaluate (ctx : Context) (rules : RuleSet) (kind : EventKind) (actor : Actor) (text : String) :
    Work Evaluation := do
  .emit (.count (.evaluation kind.label))
  let p ← ctx.tryAll rules kind actor { text }
  if p.cancelled then
    .emitAll [.count .cancellation, ctx.line "Original message cancelled."]
  else if p.text ≠ text then
    .emit (ctx.line ("FINAL: " ++ p.text))
  return ⟨p.text, p.cancelled⟩

theorem tryRules_append (ctx : Context) (kind : EventKind) (actor : Actor) (rs ss : List Rule)
    (p : Pass) :
    ctx.tryRules kind actor (rs ++ ss) p = (do
      let p ← ctx.tryRules kind actor rs p
      if p.cancelled && !rs.isEmpty then return p else ctx.tryRules kind actor ss p) := by
  induction rs generalizing p with
  | nil => simp [tryRules]
  | cons r rs ih =>
    simp only [List.cons_append, tryRules, bind_assoc]
    congr
    funext q
    by_cases hq : q.cancelled = true
    · simp [hq]
    · simp only [hq, Bool.false_eq_true, if_false, ih]
      cases rs with
      | nil => simp [tryRules, hq]
      | cons r' rs => simp

theorem tryRule_of_skips {ctx : Context} {kind : EventKind} {actor : Actor} {r : Rule}
    (h : r.skips kind actor = true) (p : Pass) : ctx.tryRule kind actor r p = pure p := by
  simp [tryRule, h]

variable {ctx : Context} {kind : EventKind} {actor : Actor} {r : Rule} {p : Pass} {state : State}

theorem tryRule_of_no_match (hs : r.skips kind actor = false)
    (hm : (ctx.ruleMatches state.chance.pace r p.text state.drawn).value = false) :
    ctx.tryRule kind actor r p state =
      let tested := ctx.ruleMatches state.chance.pace r p.text state.drawn
      ⟨p, tested.state, tested.effects⟩ := by
  simp [tryRule, hs, hm]

theorem tryRule_of_match (hs : r.skips kind actor = false)
    (hm : (ctx.ruleMatches state.chance.pace r p.text state.drawn).value = true) :
    ctx.tryRule kind actor r p state =
      let tested := ctx.ruleMatches state.chance.pace r p.text state.drawn
      let fired := ctx.fire state.chance r kind actor p tested.state
      ⟨fired.value, fired.state, tested.effects ++ fired.effects⟩ := by
  simp [tryRule, hs, hm]

end Context

end Moderation.Engine
