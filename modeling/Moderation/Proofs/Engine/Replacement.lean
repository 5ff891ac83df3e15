import Moderation.Engine.Evaluation
import Moderation.Proofs.Regex.Matches
import Moderation.Proofs.Regex.Order

/-!
Rules that replace. Whether a rule fires is asked of the text without its formatting codes, but what
it replaces is looked for in the text as it is, so that the codes around a match are kept.
-/
namespace Moderation

/-- Whether a rule does nothing to a text but replace: it prepares nothing, and neither a handler nor
a rewrite comes before the replacement. -/
structure Rule.OnlyReplaces (r : Rule) : Prop where
  strips : r.stripBefore = none
  prepares : r.replaceBefore = none
  ignores : r.ignoredMessage = none
  handler : r.handler = none
  rewrites : r.rewrites = []
  replaces : r.replacements ≠ []

/-- What a rule puts in for its matches in a text. -/
def Rule.inserted (r : Rule) (actor : Actor) (text alternative : String) : String :=
  Text.colorize ((Placeholders.of r.id actor text).fill alternative)

namespace Engine
open Moderation.Text

namespace Budget
variable {b : Budget} {state : State} {re : Regex.Compiled} {pattern text template : String}

lemma exists_ok {α ε : Type} {e : Except ε α} (h : e.toBool = true) : ∃ a, e = .ok a := by
  cases e with
  | error => cases h
  | ok a => exact ⟨a, rfl⟩

/-- Whether a pattern is never given up on a text: it can be compiled, and both the match and the
replacement of all matches come to a value in time. -/
structure Faultless (b : Budget) (pace : Pace) (pattern text template : String) (state : State)
    (re : Regex.Compiled) : Prop where
  compiles : (b.compile (Mode.normalized.source pattern) state).value = .ok re
  matched : ∃ found, b.settle pace.search (re.matchUse (stripColors text).toList) = .ok found
  replaced : ∃ result, b.settle pace.replacement (re.replaceAll template.toList text.toList) =
    .ok result

lemma faultless_nil {pace : Pace}
    (hre : Regex.compile? b.library b.backtracks (Mode.normalized.source pattern).toList = some re)
    (hm : (b.settle pace.search (re.matchUse (stripColors text).toList)).toBool = true)
    (hr : (b.settle pace.replacement (re.replaceAll template.toList text.toList)).toBool = true) :
    b.Faultless pace pattern text template {} re where
  compiles := by simp [compile, hre]
  matched := exists_ok hm
  replaced := exists_ok hr

lemma compile_compile {source : String} (h : (b.compile source state).value = .ok re) :
    b.compile source (b.compile source state).state =
      ⟨.ok re, (b.compile source state).state, []⟩ := by
  cases hl : state.compiled.lookup source with
  | some re' =>
    rw [compile_of_mem hl] at h ⊢
    obtain rfl : re' = re := by simpa using h
    exact compile_of_mem hl
  | none =>
    cases hre : Regex.compile? b.library b.backtracks source.toList with
    | none => simp [compile, hl, hre] at h
    | some re' =>
      obtain rfl : re' = re := by simpa [compile, hl, hre] using h
      simp [compile, hl, hre]

/-- A pattern that is not given up is matched against the text without its codes. -/
theorem isMatch_of_settle {looks : Looks} {found : Bool}
    (hc : (b.compile (Mode.normalized.source pattern) state).value = .ok re)
    (hm : b.settle looks (re.matchUse (stripColors text).toList) = .ok found) :
    b.isMatch looks pattern text state =
      ⟨found, (b.compile (Mode.normalized.source pattern) state).state, []⟩ := by
  have hrun : b.tryMatch looks pattern text state =
      ⟨.ok found, (b.compile (Mode.normalized.source pattern) state).state, []⟩ := by
    rw [tryMatch, run_of_compiles hc]
    exact congrArg (Done.mk · _ _) hm
  simp [isMatch, orReport, hrun]

/-- Without a fault the matches in the text as it is are replaced. -/
theorem replace_of_faultless {pace : Pace} (h : b.Faultless pace pattern text template state re) :
    ∃ spans, re.allMatches text.toList = some spans ∧
      (b.replace pace.replacement .keepColors pattern text template
          (b.compile (Mode.normalized.source pattern) state).state).value =
        .ofList (Regex.Compiled.splice
          (Regex.expandTemplate re.extended re.names template.toList) 0 text.toList spans) := by
  obtain ⟨out, hout⟩ := h.replaced
  obtain ⟨spans, hspans, rfl⟩ := Regex.Compiled.splice_of_replaceAll (result_of_settle hout)
  refine ⟨spans, hspans, ?_⟩
  -- the two modes differ in the text only, and so the pattern was compiled before
  have hc : (b.compile (Mode.keepColors.source pattern)
      (b.compile (Mode.normalized.source pattern) state).state).value = .ok re :=
    congrArg Done.value (compile_compile h.compiles)
  have htry := run_of_compiles hc pace.replacement fun re =>
    (re.replaceAll template.toList (Mode.keepColors.subject text).toList).map String.ofList
  rw [Mode.subject, settle_map hout] at htry
  simp only [replace, tryReplace, orReport, Work.bind_apply, Mode.subject, htry, Work.pure_apply]

end Budget

namespace Context
variable {ctx : Context} {r : Rule} {actor : Actor} {text alternative : String} {state : State}
  {re : Regex.Compiled}

/-- A rule that only replaces and that fires leaves its replacement of the text. -/
lemma value_fire_of_onlyReplaces (ctx : Context) (hr : r.OnlyReplaces) {chance : Chance}
    (hpick : pick chance.rolls.replacement r.replacements = some alternative) (kind : EventKind)
    (actor : Actor) (text : String) (scope : Scope) (state : State) :
    (ctx.fire chance r kind actor { text, scope } state).value =
      { text := (ctx.budget.replace chance.pace.replacement .keepColors r.pattern text
          (r.inserted actor text alternative) state).value
        scope, cancelled := r.cancels } := by
  simp [fire, handled, hr.handler, Rule.rewritten_of_nil hr.rewrites, replaced, hpick, Rule.inserted]

/-- A rule that only replaces fires if its pattern matches the text without its codes, and then it
replaces something exactly if the pattern also matches the text with them. Without codes in the text
these are the same. A rule that does not fire leaves the text alone. -/
theorem tryRule_of_onlyReplaces (hr : r.OnlyReplaces)
    (hpick : pick state.chance.rolls.replacement r.replacements = some alternative)
    (h : ctx.budget.Faultless state.chance.pace r.pattern text (r.inserted actor text alternative)
      state.drawn re) (kind : EventKind) (scope : Scope) :
    let matched := (ctx.ruleMatches state.chance.pace r text state.drawn).value
    let tried := ctx.tryRule kind actor r { text, scope } state
    (matched = true ↔ re.isMatch (stripColors text).toList = some true) ∧
    (r.skips kind actor = false → matched = true →
      ∃ spans, re.allMatches text.toList = some spans ∧
        (spans ≠ [] ↔ re.isMatch text.toList = some true) ∧
        (stripColors text = text → spans ≠ []) ∧
        tried.value =
          { text := .ofList (Regex.Compiled.splice (Regex.expandTemplate re.extended re.names
              (r.inserted actor text alternative).toList) 0 text.toList spans)
            scope, cancelled := r.cancels }) ∧
    (r.skips kind actor = true ∨ matched = false →
      tried.value = { text, scope } ∧ tried.effects = []) := by
  intro matched tried
  obtain ⟨found, hfound⟩ := h.matched
  have hrm : ctx.ruleMatches state.chance.pace r text state.drawn = ⟨found,
      (ctx.budget.compile (Mode.normalized.source r.pattern) state.drawn).state, []⟩ := by
    rw [ruleMatches_of_plain hr.strips hr.prepares hr.ignores]
    exact Budget.isMatch_of_settle h.compiles hfound
  have hmatched : matched = found := by simp only [matched, hrm]
  have hstripped : re.isMatch (stripColors text).toList = some found :=
    Regex.Compiled.isMatch_of_matchUse (Budget.result_of_settle hfound)
  refine ⟨by rw [hmatched, hstripped, Option.some.injEq], fun hs hm => ?_, fun hnot => ?_⟩
  · -- the replacement finds the pattern in the cache, where the match left it
    have hfire : tried.value = (ctx.fire state.chance r kind actor { text, scope }
        (ctx.budget.compile (Mode.normalized.source r.pattern) state.drawn).state).value := by
      simp only [tried, tryRule_of_match (p := { text, scope }) hs hm, hrm]
    obtain ⟨spans, hspans, hreplace⟩ := Budget.replace_of_faultless h
    have hiff := Regex.Compiled.allMatches_ne_nil_iff hspans
    refine ⟨spans, hspans, hiff, fun hplain => hiff.2 ?_, ?_⟩
    · rw [hplain, ← hmatched, hm] at hstripped
      exact hstripped
    · rw [hfire, value_fire_of_onlyReplaces ctx hr hpick, hreplace]
  · by_cases hs : r.skips kind actor = true
    · simp [tried, tryRule_of_skips hs]
    · have hs := Bool.eq_false_iff.2 hs
      have hm : matched = false := hnot.resolve_left (by simp [hs])
      simp only [tried, tryRule_of_no_match (p := { text, scope }) hs hm, hrm, and_self]

/-- A code within a word hides the word from the replacement, but not from the match. -/
theorem fires_without_replacing :
    let ctx : Context := { settings := {}, online := [] }
    let steve : Actor := ⟨"steve", "world", .survival, [], none⟩
    let r : Rule := { pattern := "badword", replacements := ["****"] }
    r.OnlyReplaces ∧ r.skips .chat steve = false ∧
      ∃ re, ctx.budget.Faultless {} r.pattern "bad§cword" "****" {} re ∧
        (ctx.ruleMatches {} r "bad§cword" {}).value = true ∧
        (re.allMatches "bad§cword".toList).map List.length = some 0 ∧
        (ctx.tryRule .chat steve r { text := "bad§cword" } {}).value = { text := "bad§cword" } := by
  intro ctx steve r
  have hre := (Option.some_get (x := Regex.compile? ctx.budget.library ctx.budget.backtracks
    (Mode.normalized.source r.pattern).toList) (by decide +kernel)).symm
  have h : ctx.budget.Faultless {} r.pattern "bad§cword" "****" {} _ :=
    Budget.faultless_nil hre (by decide +kernel) (by decide +kernel)
  exact ⟨⟨rfl, rfl, rfl, rfl, rfl, by decide⟩, rfl, _, h, by decide +kernel, by decide +kernel,
    by decide +kernel⟩

/-- Codes around a word are kept by its replacement. -/
theorem tryRule_of_onlyReplaces_around_codes :
    let ctx : Context := { settings := {}, online := [] }
    let steve : Actor := ⟨"steve", "world", .survival, [], none⟩
    let r : Rule := { pattern := "badword", replacements := ["****"] }
    ∃ (re : Regex.Compiled) (spans : List Regex.Cursor),
      re.allMatches "§cbadword".toList = some spans ∧ spans ≠ [] ∧
      (ctx.tryRule .chat steve r { text := "§cbadword" } {}).value =
        { text := .ofList (Regex.Compiled.splice (Regex.expandTemplate re.extended re.names
            "****".toList) 0 "§cbadword".toList spans) } := by
  intro ctx steve r
  have hre := (Option.some_get (x := Regex.compile? ctx.budget.library ctx.budget.backtracks
    (Mode.normalized.source r.pattern).toList) (by decide +kernel)).symm
  have hinserted : r.inserted steve "§cbadword" "****" = "****" := by decide +kernel
  have h : ctx.budget.Faultless {} r.pattern "§cbadword" "****" {} _ :=
    Budget.faultless_nil hre (by decide +kernel) (by decide +kernel)
  have hr : r.OnlyReplaces := ⟨rfl, rfl, rfl, rfl, rfl, by decide⟩
  obtain ⟨spans, hspans, hiff, -, hvalue⟩ :=
    (@tryRule_of_onlyReplaces ctx r steve "§cbadword" "****" {} _ hr rfl (hinserted.symm ▸ h) .chat
      {}).2.1 rfl (by decide +kernel)
  rw [hinserted] at hvalue
  exact ⟨_, spans, hspans, hiff.2 (by decide +kernel), hvalue⟩

end Context

end Engine

end Moderation
