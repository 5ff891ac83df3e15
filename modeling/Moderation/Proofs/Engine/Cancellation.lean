import Moderation.Proofs.Engine.Cache

/-!
The first rule that cancels ends an evaluation. The general rules and those of the category make one
pass, and nothing that comes after the rule that cancels can be told from what is seen.
-/
namespace Moderation

namespace Engine

/-- What is seen of an evaluation whose rules were tried in a single pass. -/
def passSeen (kind : EventKind) (run : Done Pass) : Evaluation × List Effect :=
  (⟨run.value.text, run.value.cancelled⟩,
    .count (.evaluation kind.label) ::
      (visible run.effects ++ if run.value.cancelled then [.count .cancellation] else []))

namespace Context

variable {ctx : Context} {kind : EventKind} {actor : Actor}

/-- After rules that do not cancel the next rules go on with their text and scope. -/
theorem tryRules_append_of_goes_on {rs : List Rule} {p : Pass} {state : State}
    (h : (ctx.tryRules kind actor rs p state).value.cancelled = false) (ss : List Rule) :
    ctx.tryRules kind actor (rs ++ ss) p state =
      let a := ctx.tryRules kind actor rs p state
      let b := ctx.tryRules kind actor ss a.value a.state
      ⟨b.value, b.state, a.effects ++ b.effects⟩ := by
  rw [tryRules_append]
  simp [h]

/-- After rules that cancel nothing is tried any more. -/
theorem tryRules_append_of_cancelled {rs : List Rule} {p : Pass} {state : State} (hrs : rs ≠ [])
    (h : (ctx.tryRules kind actor rs p state).value.cancelled = true) (ss : List Rule) :
    ctx.tryRules kind actor (rs ++ ss) p state = ctx.tryRules kind actor rs p state := by
  rw [tryRules_append]
  simp [h, hrs]

/-- Whether a rule cancels a pass after the rules before it did not. -/
structure CancelledBy (ctx : Context) (kind : EventKind) (actor : Actor) (earlier : List Rule)
    (last : Rule) (p : Pass) (state : State) : Prop where
  goes_on : (ctx.tryRules kind actor earlier p state).value.cancelled = false
  ends : (ctx.tryRules kind actor (earlier ++ [last]) p state).value.cancelled = true

/-- A pass that is cancelled is cancelled by one of the rules. -/
theorem exists_cancelledBy {rs : List Rule} {p : Pass} {state : State} (hp : p.cancelled = false)
    (h : (ctx.tryRules kind actor rs p state).value.cancelled = true) :
    ∃ earlier last later, rs = earlier ++ last :: later ∧
      ctx.CancelledBy kind actor earlier last p state := by
  induction rs generalizing p state with
  | nil =>
    rw [tryRules, Work.pure_apply, hp] at h
    contradiction
  | cons r rs ih =>
    -- the first rule cancels, or the rest of the pass starts from what it leaves
    by_cases hq : (ctx.tryRule kind actor r p state).value.cancelled = true
    · refine ⟨[], r, rs, rfl, hp, ?_⟩
      simp [tryRules, hq]
    · obtain ⟨earlier, last, later, rfl, hgo, hend⟩ :=
        ih (Bool.eq_false_iff.2 hq) (by simpa [tryRules, hq] using h)
      refine ⟨r :: earlier, last, later, rfl, ?_, ?_⟩
      · simpa [tryRules, hq] using hgo
      · simpa [tryRules, hq] using hend

variable (ctx kind actor) in
/-- The two categories make one pass. Only the log tells where the second begins. -/
theorem shown_tryAll (rules : RuleSet) {p : Pass} (hp : p.cancelled = false) (state : State) :
    (ctx.tryAll rules kind actor p state).shown =
      (ctx.tryRules kind actor (rules.inOrder kind) p state).shown := by
  simp only [RuleSet.inOrder, Done.shown]
  by_cases h : (ctx.tryRules kind actor (rules.get .general) p state).value.cancelled = true
  · have hne : rules.get .general ≠ [] := by
      intro hnil
      rw [hnil, tryRules, Work.pure_apply, hp] at h
      contradiction
    rw [tryRules_append_of_cancelled hne h]
    simp [tryAll, tryCategory, Work.say, Effect.isVisible, h]
  · rw [tryRules_append_of_goes_on (Bool.eq_false_iff.2 h)]
    simp [tryAll, tryCategory, Work.say, Effect.isVisible, h]

variable (ctx kind actor) in
/-- An evaluation is one pass over the general rules and those of the category. -/
theorem shown_evaluate (rules : RuleSet) (text : String) (state : State) :
    let run := ctx.tryRules kind actor (rules.inOrder kind) { text } state
    (ctx.evaluate rules kind actor text state).shown =
      ⟨(passSeen kind run).1, run.state, (passSeen kind run).2⟩ := by
  obtain ⟨hv, hc, he⟩ :=
    Done.mk.inj (shown_tryAll ctx kind actor rules (p := { text }) rfl state)
  unfold evaluate passSeen
  simp only [Done.shown, Work.bind_apply, Work.emit_apply, hv, hc]
  split
  · simp [he, Effect.isVisible, line]
  · split <;> simp [he, Effect.isVisible, line]

variable (ctx kind actor) in
/-- What is seen of an evaluation is one pass over the general rules and those of the category. -/
theorem seen_evaluate (rules : RuleSet) (text : String) (state : State) :
    (ctx.evaluate rules kind actor text).seen state =
      passSeen kind (ctx.tryRules kind actor (rules.inOrder kind) { text } state) :=
  congrArg (fun d : Done Evaluation => (d.value, d.effects))
    (shown_evaluate ctx kind actor rules text state)

/-- Up to the rule that cancels, a pass does not depend on what follows, on the dice, or on what was
compiled before. -/
theorem seen_tryRules_of_cancelledBy {earlier : List Rule} {last : Rule} {p : Pass}
    {state state' : State} (h : ctx.CancelledBy kind actor earlier last p state)
    (hr : ∀ r ∈ earlier ++ [last], r.Settled) (hstate : state.Alike ctx.budget True state')
    {rs ss : List Rule} (hrs : earlier ++ [last] <+: rs) (hss : earlier ++ [last] <+: ss) :
    passSeen kind (ctx.tryRules kind actor rs p state') =
      passSeen kind (ctx.tryRules kind actor ss p state) := by
  have hne : earlier ++ [last] ≠ [] := by simp
  -- both passes stop after the rules that they share
  have hshared := ctx.respects_tryRules kind actor (fun _ : True => hr) p
  obtain ⟨later, rfl⟩ := hrs
  obtain ⟨later', rfl⟩ := hss
  have hends' : (ctx.tryRules kind actor (earlier ++ [last]) p state').value.cancelled = true := by
    rw [← hshared.value_eq hstate]
    exact h.ends
  rw [tryRules_append_of_cancelled hne hends', tryRules_append_of_cancelled hne h.ends]
  simp only [passSeen, hshared.value_eq hstate, hshared.effects_eq hstate]

/-- An evaluation is one pass over the general rules and those of the category. If it is cancelled,
one rule cancels it, and no rule after that one and no rule of another category has any influence.
Rules that do not cancel hand on their text and their scope. -/
theorem evaluate_single_pass (ctx : Context) (kind : EventKind) (actor : Actor) (rules : RuleSet)
    (text : String) (state : State) (hr : ∀ r ∈ rules.inOrder kind, r.Settled) :
    (ctx.evaluate rules kind actor text).seen state =
      passSeen kind (ctx.tryRules kind actor (rules.inOrder kind) { text } state) ∧
    ((ctx.evaluate rules kind actor text state).value.cancelled = true →
      ∃ earlier last later, rules.inOrder kind = earlier ++ last :: later ∧
        ctx.CancelledBy kind actor earlier last { text } state ∧
        ∀ (others : RuleSet) (state' : State), state'.clock = state.clock →
          state.compiled.Alike ctx.budget state'.compiled →
          earlier ++ [last] <+: others.inOrder kind →
          (ctx.evaluate others kind actor text).seen state' =
            (ctx.evaluate rules kind actor text).seen state) ∧
    ∀ (first second : List Rule) (p : Pass) (state : State),
      let a := ctx.tryRules kind actor first p state
      let b := ctx.tryRules kind actor second { text := a.value.text, scope := a.value.scope } a.state
      a.value.cancelled = false →
        ctx.tryRules kind actor (first ++ second) p state =
          ⟨b.value, b.state, a.effects ++ b.effects⟩ := by
  refine ⟨seen_evaluate ctx kind actor rules text state, fun hcancelled => ?_, ?_⟩
  · have hv := congrArg Prod.fst (seen_evaluate ctx kind actor rules text state)
    simp only [Work.seen, passSeen] at hv
    rw [hv] at hcancelled
    obtain ⟨earlier, last, later, heq, h⟩ := exists_cancelledBy rfl hcancelled
    refine ⟨earlier, last, later, heq, h, fun others state' hclock hcompiled hpre => ?_⟩
    have hpre' : earlier ++ [last] <+: rules.inOrder kind := ⟨later, by simp [heq]⟩
    rw [seen_evaluate, seen_evaluate]
    exact seen_tryRules_of_cancelledBy h (fun r hmem => hr r (hpre'.subset hmem))
      ⟨hcompiled, hclock.symm, .inl trivial⟩ hpre hpre'
  · intro first second p state a b ha
    have hb : b = ctx.tryRules kind actor second a.value a.state := by
      have hpass : ({ text := a.value.text, scope := a.value.scope } : Pass) = a.value := by
        rw [← ha]
      simp only [b, hpass]
    rw [tryRules_append_of_goes_on ha, hb]

/-- A rule that denies ends the evaluation before the rules that others put after it. -/
theorem evaluate_single_pass_of_deny :
    let ctx : Context := { settings := {}, online := [] }
    let steve : Actor := ⟨"steve", "world", .survival, [], none⟩
    let deny : Rule := { pattern := "spam", cancels := true }
    let kick : Rule := { pattern := "spam", kick := some "bye" }
    (ctx.evaluate ⟨[(.chat, [deny])]⟩ .chat steve "spam" {}).value = ⟨"spam", true⟩ ∧
      (ctx.evaluate ⟨[(.chat, [deny, kick]), (.sign, [kick])]⟩ .chat steve "spam"
        { dice := [⟨1, 1⟩] }).value = ⟨"spam", true⟩ := by
  intro ctx steve deny kick
  have hv : (ctx.evaluate ⟨[(.chat, [deny])]⟩ .chat steve "spam" {}).value = ⟨"spam", true⟩ := by
    decide +kernel
  have hl : RuleSet.inOrder ⟨[(.chat, [deny])]⟩ .chat = [deny] := rfl
  have hr : ∀ r ∈ RuleSet.inOrder ⟨[(.chat, [deny])]⟩ .chat, r.Settled := by
    intro r hmem
    rw [hl, List.mem_singleton] at hmem
    subst hmem
    constructor <;> simp [deny]
  obtain ⟨earlier, last, later, heq, -, h⟩ :=
    (evaluate_single_pass ctx .chat steve ⟨[(.chat, [deny])]⟩ "spam" {} hr).2.1 (by rw [hv])
  have hpre : earlier ++ [last] = [deny] := by
    rw [hl, eq_comm, List.append_eq_singleton_iff] at heq
    obtain ⟨rfl, hlast⟩ | ⟨-, hnil⟩ := heq
    · rw [(List.cons.inj hlast).1]
      rfl
    · cases hnil
  have hsame := h ⟨[(.chat, [deny, kick]), (.sign, [kick])]⟩ { dice := [⟨1, 1⟩] } rfl
    (.inl rfl) (by rw [hpre]; exact ⟨[kick], rfl⟩)
  have hvalue := congrArg Prod.fst hsame
  simp only [Work.seen] at hvalue
  exact ⟨hv, hvalue.trans hv⟩

end Context

end Engine

end Moderation
