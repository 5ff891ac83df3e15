import Mathlib.Tactic.Lemma
import Moderation.Engine.Firing

/-!
What the steps of a rule have in common. A rule prepares a text, looks for its pattern and changes
the text. All of this is made of the same parts: patterns are compiled, what fails is reported, and
something is logged. So whatever these parts have in common, the steps have too.
-/
namespace Moderation.Engine

/-- A property that work has if its parts have it, and that the parts with patterns have. -/
structure Inherited (b : Budget) (P : ∀ {α : Type}, Work α → Prop) : Prop where
  pure : ∀ {α : Type} (a : α), P (Pure.pure a : Work α)
  bind : ∀ {α β : Type} {w : Work α} {f : α → Work β}, P w → (∀ a, P (f a)) → P (w >>= f)
  say : ∀ level text fields, P (.say level text fields)
  compile : ∀ source, P (b.compile source)
  report : ∀ pattern text failure, P (b.report pattern text failure)

namespace Inherited
variable {P : ∀ {α : Type}, Work α → Prop}

/-! ### Uses of patterns -/

section Patterns
variable {b : Budget}

lemma run {α : Type} (hP : Inherited b P) (looks : Looks) (source : String)
    (use : Regex.Compiled → Regex.Use α) : P (b.run looks source use) := by
  apply hP.bind (hP.compile source)
  intro compiled
  cases compiled with
  | error fault => exact hP.pure _
  | ok re => exact hP.pure _

lemma orReport {α : Type} {w : Work (Except Failure α)} (hP : Inherited b P) (hw : P w)
    (pattern text : String) (otherwise : α) : P (b.orReport pattern text otherwise w) := by
  apply hP.bind hw
  intro result
  cases result with
  | ok a => exact hP.pure _
  | error failure => exact hP.bind (hP.report ..) fun _ => hP.pure _

theorem isMatch (hP : Inherited b P) (looks : Looks) (pattern text : String) :
    P (b.isMatch looks pattern text) :=
  hP.orReport (hP.run ..) ..

theorem replace (hP : Inherited b P) (looks : Looks) (mode : Mode)
    (pattern text replacement : String) : P (b.replace looks mode pattern text replacement) :=
  hP.orReport (hP.run ..) ..

end Patterns

/-! ### Steps of a rule -/

section Rules
variable {ctx : Context}

lemma preprocess (hP : Inherited ctx.budget P) (pace : Pace) (r : Rule) (text : String) :
    P (ctx.preprocess pace r text) := by
  unfold Context.preprocess
  cases r.replaceBefore with
  | none =>
    cases r.stripBefore with
    | none => exact hP.bind (hP.pure _) fun _ => hP.pure _
    | some pattern => exact hP.bind (hP.replace ..) fun _ => hP.pure _
  | some prepared =>
    cases r.stripBefore with
    | none => exact hP.bind (hP.pure _) fun _ => hP.replace ..
    | some pattern => exact hP.bind (hP.replace ..) fun _ => hP.replace ..

lemma eraseIgnored (hP : Inherited ctx.budget P) (pace : Pace) (r : Rule) (text : String) :
    P (ctx.eraseIgnored pace r text) := by
  unfold Context.eraseIgnored
  cases r.ignoredMessage with
  | none => exact hP.pure _
  | some ignored =>
    apply hP.bind (hP.isMatch ..)
    intro found
    cases found with
    | false => exact hP.pure _
    | true => exact hP.bind (hP.say ..) fun _ => hP.replace ..

/-- What the parts with patterns have in common, the test of a rule has. -/
theorem ruleMatches (hP : Inherited ctx.budget P) (pace : Pace) (r : Rule) (text : String) :
    P (ctx.ruleMatches pace r text) := by
  apply hP.bind (hP.preprocess pace r text)
  intro text
  apply hP.bind (hP.eraseIgnored pace r text)
  intro text
  exact hP.isMatch ..

/-- What the parts with patterns have in common, the work of a handler on a text has. -/
theorem handlerText (hP : Inherited ctx.budget P) (pace : Pace) (h : Handler) (r : Rule)
    (values : Placeholders) (text : String) : P (ctx.handlerText pace h r values text) := by
  unfold Context.handlerText
  cases h.outcome with
  | replaceWord word => exact hP.replace ..
  | replaceWhole | pass | block => exact hP.pure _

/-- What the parts with patterns have in common, the replacement of a rule has. -/
theorem replaced (hP : Inherited ctx.budget P) (chance : Chance) (r : Rule) (actor : Actor)
    (text : String) : P (ctx.replaced chance r actor text) := by
  unfold Context.replaced
  cases pick chance.rolls.replacement r.replacements with
  | none => exact hP.pure _
  | some replacement => exact hP.replace ..

end Rules

end Inherited

end Moderation.Engine
