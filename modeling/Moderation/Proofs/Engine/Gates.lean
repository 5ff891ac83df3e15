import Moderation.Proofs.Engine.Faults
import Moderation.Proofs.Engine.Surroundings

/-!
The gates of rules and of handlers. A rule that is not tried for an event might as well not be there, and
a rule whose handler does nothing about a text might as well have no handler. Only the log can tell.
-/
namespace Moderation
open Engine

def Rule.withoutHandler (r : Rule) : Rule := { r with handler := none }

lemma Rule.Settled.withoutHandler {r : Rule} (hr : r.Settled) : r.withoutHandler.Settled :=
  ⟨hr.replacements, hr.rewrites⟩

/-! ### Sets with a rule changed -/

namespace RuleSet
variable {s : RuleSet} {c : Category} {i : Nat} {r : Rule}
  {f : List Rule → List Rule}

/-- A set with the rules of a category changed. -/
def change (s : RuleSet) (c : Category) (f : List Rule → List Rule) : RuleSet :=
  ⟨s.entries.map fun (d, rules) => (d, if d = c then f rules else rules)⟩

/-- A set without one of the rules of a category. -/
def without (s : RuleSet) (c : Category) (i : Nat) : RuleSet := s.change c (·.eraseIdx i)

/-- A set in which one of the rules of a category has no handler. -/
def withoutHandler (s : RuleSet) (c : Category) (i : Nat) : RuleSet :=
  s.change c (·.modify i Rule.withoutHandler)

/-- The rules that are tried before a rule of a category. -/
def before (s : RuleSet) (c : Category) (i : Nat) : List Rule :=
  if c = .general then (s.get c).take i else s.get .general ++ (s.get c).take i

/-- Only the rules of the category are changed. -/
theorem get_change (hf : f [] = []) (d : Category) :
    (s.change c f).get d = if d = c then f (s.get d) else s.get d := by
  obtain ⟨entries⟩ := s
  simp only [get, change]
  induction entries with
  | nil => simp [hf]
  | cons e entries ih =>
    obtain ⟨d', rules⟩ := e
    rw [List.map_cons, List.lookup_cons, List.lookup_cons]
    by_cases hd : d = d'
    · subst hd
      by_cases hc : d = c <;> simp [hc]
    · have hb : (d == d') = false := by simpa using hd
      simpa only [hb] using ih

/-- A rule that is put in for another one takes its place in the order of the rules. -/
lemma inOrder_change (hf : f [] = []) (rules : List Rule) (hi : (s.get c)[i]? = some r)
    (hc : f (s.get c) = (s.get c).take i ++ rules ++ (s.get c).drop (i + 1)) (kind : EventKind) :
    (s.change c f).inOrder kind = s.inOrder kind ∨
      ∃ later, s.inOrder kind = s.before c i ++ r :: later ∧
        (s.change c f).inOrder kind = s.before c i ++ (rules ++ later) := by
  have hsplit : s.get c = (s.get c).take i ++ r :: (s.get c).drop (i + 1) := by
    obtain ⟨hlt, rfl⟩ := List.getElem?_eq_some_iff.1 hi
    rw [← List.drop_eq_getElem_cons hlt, List.take_append_drop]
  have hne : kind.category ≠ .general := by cases kind <;> decide
  simp only [inOrder, get_change hf, before]
  by_cases hg : c = .general
  · -- the rule is a general one
    subst hg
    refine .inr ⟨(s.get .general).drop (i + 1) ++ s.get kind.category, ?_, ?_⟩
    · rw [if_pos rfl, ← List.cons_append, ← List.append_assoc, ← hsplit]
    · simp [hne, hc]
  · by_cases hk : c = kind.category
    · subst hk
      refine .inr ⟨(s.get kind.category).drop (i + 1), ?_, ?_⟩
      · rw [if_neg hg, List.append_assoc, ← hsplit]
      · simp [hne, hne.symm, hc]
    · exact .inl (by simp [Ne.symm hg, Ne.symm hk])

lemma inOrder_without (hi : (s.get c)[i]? = some r) (kind : EventKind) :
    (s.without c i).inOrder kind = s.inOrder kind ∨
      ∃ later, s.inOrder kind = s.before c i ++ r :: later ∧
        (s.without c i).inOrder kind = s.before c i ++ later :=
  inOrder_change rfl [] hi (by simp [List.eraseIdx_eq_take_drop_succ]) kind

lemma inOrder_withoutHandler (hi : (s.get c)[i]? = some r) (kind : EventKind) :
    (s.withoutHandler c i).inOrder kind = s.inOrder kind ∨
      ∃ later, s.inOrder kind = s.before c i ++ r :: later ∧
        (s.withoutHandler c i).inOrder kind = s.before c i ++ r.withoutHandler :: later := by
  refine inOrder_change (by simp) [r.withoutHandler] hi ?_ kind
  obtain ⟨hlt, rfl⟩ := List.getElem?_eq_some_iff.1 hi
  simp [List.modify_eq_take_cons_drop hlt]

end RuleSet

namespace Engine.Context
variable {ctx : Context} {chance : Chance} {kind : EventKind} {actor : Actor} {r : Rule} {p : Pass}
  {state : State}

/-! ### Rules that are not tried -/

/-- A rule that is skipped might as well not be among the rules. -/
theorem tryRules_of_skips (h : r.skips kind actor = true) (rs ss : List Rule)
    (hp : p.cancelled = false) :
    ctx.tryRules kind actor (rs ++ r :: ss) p = ctx.tryRules kind actor (rs ++ ss) p := by
  induction rs generalizing p with
  | nil => simp [tryRules, tryRule_of_skips h, hp]
  | cons r' rs ih =>
    simp only [List.cons_append, tryRules]
    refine bind_congr fun q => ?_
    by_cases hq : q.cancelled = true
    · simp only [hq, if_true]
    · simp only [hq, Bool.false_eq_true, if_false, ih (Bool.eq_false_iff.2 hq)]

/-! ### Handlers that do nothing -/

lemma visible_openingEffects_withoutHandler (text : String) :
    visible (ctx.openingEffects r.withoutHandler kind actor text) =
      visible (ctx.openingEffects r kind actor text) := by
  simp only [openingEffects, visible_append, visible_matchLines]
  rfl

lemma handled_of_lets (h : ∀ k ∈ r.handler, k.lets kind actor p.text = true) :
    ctx.handled chance.pace r kind actor p = pure p := by
  unfold handled
  cases hk : r.handler with
  | none => rfl
  | some k => exact applyHandler_of_lets (h k hk) chance.pace r

/-- A rule whose handler does nothing fires as the rule without it does. -/
lemma shown_fire_withoutHandler (h : ∀ k ∈ r.handler, k.lets kind actor p.text = true) :
    (ctx.fire chance r.withoutHandler kind actor p state).shown =
      (ctx.fire chance r kind actor p state).shown := by
  have hnone : ctx.handled chance.pace r.withoutHandler kind actor p = pure p := rfl
  simp only [fire, hnone, handled_of_lets h, pure_bind, Done.shown, Work.bind_apply,
    Work.emitAll_apply, visible_append, visible_openingEffects_withoutHandler]
  rfl

/-- Whether the handler of a rule, if it has one, does nothing once the rule matches. -/
def LetsPass (ctx : Context) (kind : EventKind) (actor : Actor) (r : Rule) (p : Pass)
    (state : State) : Prop :=
  r.skips kind actor = false →
    (ctx.ruleMatches state.chance.pace r p.text state.drawn).value = true →
    ∀ k ∈ r.handler, k.lets kind actor p.text = true

lemma shown_tryRule_withoutHandler (h : ctx.LetsPass kind actor r p state) :
    (ctx.tryRule kind actor r.withoutHandler p state).shown =
      (ctx.tryRule kind actor r p state).shown := by
  have hskips : r.withoutHandler.skips kind actor = r.skips kind actor := rfl
  have hmatches : ctx.ruleMatches state.chance.pace r.withoutHandler p.text =
      ctx.ruleMatches state.chance.pace r p.text := rfl
  cases hs : r.skips kind actor with
  | true => rw [tryRule_of_skips hs, tryRule_of_skips (hskips.trans hs)]
  | false =>
    cases hm : (ctx.ruleMatches state.chance.pace r p.text state.drawn).value with
    | false => rw [tryRule_of_no_match hs hm, tryRule_of_no_match (hskips.trans hs) hm, hmatches]
    | true =>
      obtain ⟨hv, hc, he⟩ := Done.mk.inj (@shown_fire_withoutHandler ctx state.chance kind actor r p
        (ctx.ruleMatches state.chance.pace r p.text state.drawn).state (h hs hm))
      rw [tryRule_of_match hs hm, tryRule_of_match (hskips.trans hs) hm, hmatches]
      simp only [Done.shown, visible_append, hv, hc, he]

/-- A rule whose handler does nothing about the text that reaches it might as well have none. -/
theorem shown_tryRules_withoutHandler {rs : List Rule} (hp : p.cancelled = false)
    (h : (ctx.tryRules kind actor rs p state).value.cancelled = false →
      ctx.LetsPass kind actor r (ctx.tryRules kind actor rs p state).value
        (ctx.tryRules kind actor rs p state).state) (ss : List Rule) :
    (ctx.tryRules kind actor (rs ++ r.withoutHandler :: ss) p state).shown =
      (ctx.tryRules kind actor (rs ++ r :: ss) p state).shown := by
  cases hq : (ctx.tryRules kind actor rs p state).value.cancelled with
  | true =>
    have hne : rs ≠ [] := by
      rintro rfl
      rw [tryRules, Work.pure_apply, hp] at hq
      contradiction
    rw [tryRules_append_of_cancelled hne hq, tryRules_append_of_cancelled hne hq]
  | false =>
    obtain ⟨hv, hc, he⟩ := Done.mk.inj (shown_tryRule_withoutHandler (h hq))
    rw [tryRules_append_of_goes_on hq, tryRules_append_of_goes_on hq]
    simp only [tryRules, Done.shown, Work.bind_apply, visible_append, hv, hc, he]

/-! ### Evaluations -/

lemma outcome_evaluate_eq {rules others : RuleSet} {text : String} {state state' : State}
    (h : (ctx.tryRules kind actor (others.inOrder kind) { text } state).shown =
      (ctx.tryRules kind actor (rules.inOrder kind) { text } state).shown)
    (hr : ∀ r ∈ others.inOrder kind, r.Settled) (hcompiled : state'.compiled = state.compiled)
    (hclock : state'.clock = state.clock) :
    (ctx.evaluate others kind actor text).outcome state' =
      (ctx.evaluate rules kind actor text).outcome state := by
  have hothers := respects_evaluate ctx kind actor (fun _ : True => hr) text
  have halike : state'.Alike ctx.budget True state := ⟨.inl hcompiled, hclock, .inl trivial⟩
  obtain ⟨hv, hs, he⟩ := Done.mk.inj h
  have hshown : (ctx.evaluate others kind actor text state).shown =
      (ctx.evaluate rules kind actor text state).shown := by
    simp only [shown_evaluate, passSeen, hv, hs, he]
  obtain ⟨hv, hs, he⟩ := Done.mk.inj hshown
  rw [hothers.outcome_eq halike hcompiled]
  simp only [Work.outcome, Work.seen, hv, hs, he]

/-- A rule that is skipped can be taken out, and a handler that does nothing about the text that reaches
its rule can be taken from the rule. The evaluation, what is seen of it and what it compiles stay the
same, however the dice fall. -/
theorem evaluate_past_gates (ctx : Context) (rules : RuleSet) (kind : EventKind) (actor : Actor)
    (text : String) {state state' : State} (hr : ∀ r ∈ rules.inOrder kind, r.Settled)
    (hcompiled : state'.compiled = state.compiled) (hclock : state'.clock = state.clock)
    {c : Category} {i : Nat} {r : Rule} (hi : (rules.get c)[i]? = some r) :
    (r.skips kind actor = true →
      (ctx.evaluate (rules.without c i) kind actor text).outcome state' =
        (ctx.evaluate rules kind actor text).outcome state) ∧
    ((let reached := ctx.tryRules kind actor (rules.before c i) { text } state
      reached.value.cancelled = false → ctx.LetsPass kind actor r reached.value reached.state) →
      (ctx.evaluate (rules.withoutHandler c i) kind actor text).outcome state' =
        (ctx.evaluate rules kind actor text).outcome state) := by
  refine ⟨fun hs => ?_, fun hl => ?_⟩
  · obtain hsame | ⟨later, hin, hout⟩ := RuleSet.inOrder_without hi kind
    · exact outcome_evaluate_eq (by rw [hsame]) (hsame.symm ▸ hr) hcompiled hclock
    · refine outcome_evaluate_eq ?_ ?_ hcompiled hclock
      · rw [hin, hout, tryRules_of_skips hs _ _ rfl]
      · rw [hout]
        rw [hin] at hr
        grind
  · obtain hsame | ⟨later, hin, hout⟩ := RuleSet.inOrder_withoutHandler hi kind
    · exact outcome_evaluate_eq (by rw [hsame]) (hsame.symm ▸ hr) hcompiled hclock
    · refine outcome_evaluate_eq ?_ ?_ hcompiled hclock
      · rw [hin, hout, shown_tryRules_withoutHandler rfl hl]
      · rw [hout]
        rw [hin] at hr
        have hr' := (hr r (by simp)).withoutHandler
        grind

/-- A rule that the player may bypass, and a handler that ignores the command. -/
theorem evaluate_past_gates_of_command :
    let ctx : Context := { settings := {}, online := [] }
    let steve : Actor := ⟨"steve", "world", .survival, ["vip"], none⟩
    let gated : Rule := { pattern := "spam", bypass := some "vip", cancels := true }
    let blocker : Handler := { name := "ads", ignoredCommands := ["/pay"], outcome := .block }
    let blocked : Rule := { pattern := "pay", handler := blocker, replacements := ["give"] }
    let rules : RuleSet := ⟨[(.general, [gated]), (.command, [blocked])]⟩
    let run (rules : RuleSet) := (ctx.evaluate rules .command steve "/pay spam").outcome {}
    (run rules).1.1 = ⟨"/give spam", false⟩ ∧ run (rules.without .general 0) = run rules ∧
      run (rules.withoutHandler .command 0) = run rules := by
  intro ctx steve gated blocker blocked rules run
  have hr : ∀ r ∈ rules.inOrder .command, r.Settled := by
    have hl : rules.inOrder .command = [gated, blocked] := rfl
    rw [hl]
    rintro r (_ | ⟨_, _ | ⟨_, ⟨⟩⟩⟩) <;> constructor <;> simp [gated, blocked]
  have h {c : Category} {r : Rule} (hi : (rules.get c)[0]? = some r) :=
    @evaluate_past_gates ctx rules .command steve "/pay spam" {} {} hr rfl rfl c 0 r hi
  refine ⟨by decide +kernel, (@h .general gated rfl).1 (by decide), ?_⟩
  refine (@h .command blocked rfl).2 fun _ _ _ k hk => ?_
  obtain rfl : blocker = k := Option.some.inj hk
  decide +kernel

end Engine.Context

end Moderation
