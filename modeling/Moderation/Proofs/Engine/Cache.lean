import Moderation.Engine.Evaluation
import Moderation.Proofs.Engine.Steps
import Moderation.Proofs.Engine.Work

/-!
What was compiled before has no influence: all that is done about a text comes to the same from caches
that are alike, and leaves a sound cache sound. Chance has an influence where a rule is tried, but the dice
have none on rules whose alternatives are all the same.
-/
namespace Moderation

/-- The rules for texts of a kind of events, in the order in which they are tried. -/
def RuleSet.inOrder (s : RuleSet) (kind : EventKind) : List Rule :=
  s.get .general ++ s.get kind.category

/-- Whether a rule leaves nothing to the dice: its alternatives are all the same. -/
structure Rule.Settled (r : Rule) : Prop where
  replacements : ∀ a ∈ r.replacements, ∀ b ∈ r.replacements, a = b
  rewrites : ∀ a ∈ r.rewrites, ∀ b ∈ r.rewrites, a = b

namespace Engine
open Work (IgnoresCache Respects)

/-- Where all alternatives are the same, the first of them is picked. -/
theorem pick_eq_head? {l : List String} (h : ∀ a ∈ l, ∀ b ∈ l, a = b) (roll : Nat) :
    pick roll l = l.head? := by
  cases l with
  | nil => simp
  | cons a l =>
    obtain ⟨b, hb⟩ := Option.isSome_iff_exists.1 (isSome_pick (List.cons_ne_nil a l) roll)
    have hba := h b (mem_of_pick hb) a List.mem_cons_self
    rw [hb, hba, List.head?_cons]

namespace Budget
variable {b : Budget}

lemma value_compile_of_sound {state : State} (hs : state.compiled.Sound b) (source : String) :
    (b.compile source state).value =
      match Regex.compile? b.library b.backtracks source.toList with
      | some re => .ok re
      | none => .error .malformed := by
  cases hl : state.compiled.lookup source with
  | some re => rw [compile_of_mem hl, hs source re hl]
  | none =>
    cases hre : Regex.compile? b.library b.backtracks source.toList <;> simp [compile, hl, hre]

/-- Compiling is the only step that looks into the cache. -/
theorem ignoresCache_compile (source : String) : (b.compile source).IgnoresCache b where
  value_eq {s s'} h := by
    obtain hsame | ⟨hs, hs'⟩ := h
    · simp only [compile, hsame]
      split
      · rfl
      · split <;> rfl
    · rw [value_compile_of_sound hs, value_compile_of_sound hs']
  effects_eq _ := by simp only [effects_compile]
  compiled_eq {s s'} h := by
    simp only [compile, h]
    split
    · exact h
    · split
      · rfl
      · exact h
  sound {s} hs := by
    unfold compile
    split
    · exact hs
    · split
      case h_1 re hre => exact hs.cons hre
      case h_2 => exact hs
  clock_eq s := by
    unfold compile
    split
    · rfl
    · split <;> rfl
  dice_eq s := by
    unfold compile
    split
    · rfl
    · split <;> rfl

lemma ignoresCache_report (pattern text : String) (failure : Failure) :
    (b.report pattern text failure).IgnoresCache b := by
  cases failure with
  | fault fault => exact .emitAll _
  | crash => exact .emit _

theorem inherited_ignoresCache (b : Budget) : Inherited b (IgnoresCache b) where
  pure := .pure
  bind := .bind
  say := .say
  compile := ignoresCache_compile
  report := ignoresCache_report

theorem ignoresCache_run {α : Type} (looks : Looks) (source : String)
    (use : Regex.Compiled → Regex.Use α) : (b.run looks source use).IgnoresCache b :=
  b.inherited_ignoresCache.run looks source use

theorem ignoresCache_isMatch (looks : Looks) (pattern text : String) :
    (b.isMatch looks pattern text).IgnoresCache b :=
  b.inherited_ignoresCache.isMatch looks pattern text

theorem ignoresCache_replace (looks : Looks) (mode : Mode) (pattern text replacement : String) :
    (b.replace looks mode pattern text replacement).IgnoresCache b :=
  b.inherited_ignoresCache.replace looks mode pattern text replacement

end Budget

namespace Context
variable (ctx : Context) (kind : EventKind) (actor : Actor)

/-! ### One trial of a rule -/

theorem ignoresCache_eraseIgnored (pace : Pace) (r : Rule) (text : String) :
    (ctx.eraseIgnored pace r text).IgnoresCache ctx.budget :=
  ctx.budget.inherited_ignoresCache.eraseIgnored pace r text

theorem ignoresCache_ruleMatches (pace : Pace) (r : Rule) (text : String) :
    (ctx.ruleMatches pace r text).IgnoresCache ctx.budget :=
  ctx.budget.inherited_ignoresCache.ruleMatches pace r text

theorem ignoresCache_handlerText (pace : Pace) (h : Handler) (r : Rule) (values : Placeholders)
    (text : String) : (ctx.handlerText pace h r values text).IgnoresCache ctx.budget :=
  ctx.budget.inherited_ignoresCache.handlerText pace h r values text

theorem ignoresCache_handled (pace : Pace) (r : Rule) (p : Pass) :
    (ctx.handled pace r kind actor p).IgnoresCache ctx.budget := by
  unfold handled
  cases r.handler with
  | none => exact .pure _
  | some h =>
    refine .ite (.pure _) (.bind (.emitAll _) fun _ => .ite (.pure _) ?_)
    exact (ignoresCache_handlerText ..).bind fun _ => .pure _

theorem ignoresCache_replaced (chance : Chance) (r : Rule) (text : String) :
    (ctx.replaced chance r actor text).IgnoresCache ctx.budget :=
  ctx.budget.inherited_ignoresCache.replaced chance r actor text

theorem ignoresCache_fire (chance : Chance) (r : Rule) (p : Pass) :
    (ctx.fire chance r kind actor p).IgnoresCache ctx.budget := by
  refine .bind (.emitAll _) fun _ => (ignoresCache_handled ..).bind fun p => .ite (.pure _) ?_
  exact (ignoresCache_replaced ..).bind fun _ => .bind (.emitAll _) fun _ => .pure _

/-- The dice have no say in what a settled rule does. -/
theorem fire_of_settled {r : Rule} (hr : r.Settled) (pace : Pace) (rolls rolls' : Rolls) (p : Pass) :
    ctx.fire ⟨pace, rolls⟩ r kind actor p = ctx.fire ⟨pace, rolls'⟩ r kind actor p := by
  simp only [fire, Rule.rewritten, replaced, pick_eq_head? hr.rewrites,
    pick_eq_head? hr.replacements]

/-! ### Rules one after the other -/

variable {settled : Prop}

theorem respects_tryRule {r : Rule} (hr : settled → r.Settled) (p : Pass) :
    (ctx.tryRule kind actor r p).Respects ctx.budget settled := by
  refine .ite (.pure _) (.draw_bind (fun chance => ?_) fun h pace rolls rolls' => ?_)
  · refine (ignoresCache_ruleMatches ..).respects.bind fun found => .ite ?_ (.pure _)
    exact (ignoresCache_fire ..).respects
  · simp only [fire_of_settled ctx kind actor (hr h) pace rolls rolls']

/-- The rules are tried in turn, each from the state that the ones before it left. -/
theorem respects_tryRules {rs : List Rule} (hrs : settled → ∀ r ∈ rs, r.Settled) (p : Pass) :
    (ctx.tryRules kind actor rs p).Respects ctx.budget settled := by
  induction rs generalizing p with
  | nil => exact .pure _
  | cons r rs ih =>
    have hr (h : settled) : r.Settled := hrs h r List.mem_cons_self
    have hrest (h : settled) : ∀ r ∈ rs, r.Settled := fun r hmem => hrs h r (.tail _ hmem)
    exact (respects_tryRule ctx kind actor hr p).bind fun q => .ite (.pure _) (ih hrest q)

theorem respects_tryCategory {rules : RuleSet} {c : Category}
    (hrs : settled → ∀ r ∈ rules.get c, r.Settled) (p : Pass) :
    (ctx.tryCategory rules kind actor c p).Respects ctx.budget settled :=
  .bind (IgnoresCache.respects (.say ..)) fun _ => respects_tryRules ctx kind actor hrs _

/-- An evaluation comes to the same whatever was compiled before it, and whatever the dice show if the
rules are settled. -/
theorem respects_evaluate {rules : RuleSet}
    (hrs : settled → ∀ r ∈ rules.inOrder kind, r.Settled) (text : String) :
    (ctx.evaluate rules kind actor text).Respects ctx.budget settled := by
  have hgeneral (h : settled) : ∀ r ∈ rules.get .general, r.Settled :=
    fun r hmem => hrs h r (List.mem_append_left _ hmem)
  have hown (h : settled) : ∀ r ∈ rules.get kind.category, r.Settled :=
    fun r hmem => hrs h r (List.mem_append_right _ hmem)
  refine .bind (IgnoresCache.respects (.emit _)) fun _ => .bind (.bind ?_ fun p => ?_) fun p =>
    .ite ?_ (.ite ?_ (.pure _))
  · exact respects_tryCategory ctx kind actor hgeneral _
  · exact .ite (.pure _) (respects_tryCategory ctx kind actor hown _)
  · exact .bind (IgnoresCache.respects (.emitAll _)) fun _ => .pure _
  · exact .bind (IgnoresCache.respects (.emit _)) fun _ => .pure _

end Context

end Engine

end Moderation
