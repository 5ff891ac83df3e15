import Moderation.Proofs.Engine.Cancellation
import Moderation.Proofs.Engine.Faults
import Moderation.Proofs.Engine.Leaves
import Moderation.Proofs.Engine.Queries

/-!
An engine that has no time for patterns. Each pattern that it uses is given up, so no rule matches: texts
and packets stay as they are, and all that is seen is one report for each pattern of a rule that is tried.
-/
namespace Moderation
open Engine

/-- The patterns that are used while a rule is tested, each in the mode in which it is compiled. -/
def Rule.tests (r : Rule) : List (Mode × String) :=
  (r.stripBefore.toList.map fun pattern => (.exact, pattern)) ++
  (r.replaceBefore.toList.map fun prepared => (.exact, prepared.1)) ++
  (r.ignoredMessage.toList.map fun pattern => (.normalized, pattern)) ++
  [(.normalized, r.pattern)]

/-- A rule is tested with its own pattern and with one for each of its preparations. -/
theorem Rule.length_tests (r : Rule) :
    r.tests.length = 1 + r.stripBefore.isSome.toNat + r.replaceBefore.isSome.toNat +
      r.ignoredMessage.isSome.toNat := by
  have hlength {α : Type} (o : Option α) : o.toList.length = o.isSome.toNat := by cases o <;> rfl
  simp only [tests, List.length_append, List.length_map, hlength, List.length_singleton]
  omega

namespace Engine
namespace Budget
variable {b : Budget} {text : String}

/-- Why a pattern is given up where there is no time. -/
def refusal (b : Budget) (source : String) : Fault :=
  if b.compiles source then .timeout else .malformed

/-- What is given up of a pattern that is used on a text without time. -/
def refused (b : Budget) (text : String) (test : Mode × String) : GivenUp :=
  ⟨test.2, text, .fault (b.refusal (test.1.source test.2))⟩

lemma value_run_of_no_time {α : Type} (ht : b.timeout = 0) (looks : Looks) (source : String)
    (use : Regex.Compiled → Regex.Use α) :
    (b.run looks source use {}).value = .error (.fault (b.refusal source)) := by
  cases hre : Regex.compile? b.library b.backtracks source.toList with
  | none => simp [run_of_not_compiles hre, refusal, compiles, hre]
  | some re =>
    have hc : (b.compile source {}).value = .ok re := by simp [compile, hre]
    rw [run_of_compiles hc, settle_of_timeout_zero ht]
    simp [refusal, compiles, hre]

theorem seen_isMatch_of_no_time (ht : b.timeout = 0) (looks : Looks) (pattern text : String) :
    (b.isMatch looks pattern text).seen {} =
      (false, (b.refused text (.normalized, pattern)).report) := by
  rw [seen_isMatch, tryMatch, value_run_of_no_time ht]
  rfl

theorem seen_replace_of_no_time (ht : b.timeout = 0) (looks : Looks) (mode : Mode)
    (pattern text replacement : String) :
    (b.replace looks mode pattern text replacement).seen {} =
      (text, (b.refused text (mode, pattern)).report) := by
  rw [seen_replace, tryReplace, value_run_of_no_time ht]
  rfl

end Budget

namespace Context
variable {ctx : Context} {kind : EventKind} {actor : Actor} {rules : RuleSet}

/-- What is given up of a rule that is tested on a text without time. -/
def refused (ctx : Context) (text : String) (r : Rule) : List GivenUp :=
  r.tests.map (ctx.budget.refused text)

/-- What is given up of the rules for packets on a text, which they see without codes and in small
letters. -/
def refusedInLeaf (ctx : Context) (rules : RuleSet) (text : String) : List GivenUp :=
  if text = "" then []
  else ((rules.get .packet).filter (·.isPacketRule)).flatMap
    (ctx.refused (Text.stripColors (Text.lowerCase text)))

/-! ### Rules -/

/-- Without time no rule matches, and each step of the test leaves the text to the next. -/
theorem seen_ruleMatches_of_no_time (ht : ctx.budget.timeout = 0) (pace : Pace) (r : Rule)
    (text : String) : (ctx.ruleMatches pace r text).seen {} =
      (false, (ctx.refused text r).flatMap (·.report)) := by
  have hstrip : (ctx.strippedBefore pace r text).seen {} = (text,
      r.stripBefore.toList.flatMap fun p => (ctx.budget.refused text (.exact, p)).report) := by
    unfold strippedBefore
    cases r.stripBefore with
    | none => rfl
    | some pattern => simp [Budget.seen_replace_of_no_time ht]
  have hreplace : (ctx.replacedBefore pace r text).seen {} = (text,
      r.replaceBefore.toList.flatMap fun p => (ctx.budget.refused text (.exact, p.1)).report) := by
    unfold replacedBefore
    cases r.replaceBefore with
    | none => rfl
    | some prepared => simp [Budget.seen_replace_of_no_time ht]
  have hignore : (ctx.eraseIgnored pace r text).seen {} = (text,
      r.ignoredMessage.toList.flatMap fun p =>
        (ctx.budget.refused text (.normalized, p)).report) := by
    cases hr : r.ignoredMessage with
    | none => simp only [eraseIgnored, hr]; rfl
    | some pattern => simp [seen_eraseIgnored hr, Budget.seen_isMatch_of_no_time ht, chain]
  simp [seen_ruleMatches, chain, hstrip, hreplace, hignore, Budget.seen_isMatch_of_no_time ht,
    refused, Rule.tests, List.flatMap_map]

variable {state : State}

lemma seen_tryRule_of_no_time (ht : ctx.budget.timeout = 0) (hc : state.compiled.Sound ctx.budget)
    {r : Rule} (hs : r.skips kind actor = false) (p : Pass) :
    (ctx.tryRule kind actor r p).seen state = (p, (ctx.refused p.text r).flatMap (·.report)) := by
  simp [seen_tryRule hc hs, seen_ruleMatches_of_no_time ht, chain]

/-- Without time the rules of a pass are tested one after the other, all on the same text. -/
theorem seen_tryRules_of_no_time (ht : ctx.budget.timeout = 0)
    (hc : state.compiled.Sound ctx.budget) (rs : List Rule) {p : Pass} (hp : p.cancelled = false) :
    (ctx.tryRules kind actor rs p).seen state =
      (p, ((rs.filter fun r => !r.skips kind actor).flatMap (ctx.refused p.text)).flatMap
        (·.report)) := by
  induction rs generalizing state with
  | nil => rfl
  | cons r rs ih =>
    have hafter := (ctx.respects_tryRule kind actor (r := r) False.elim p).sound hc
    rw [tryRules, Work.seen_bind]
    by_cases hs : r.skips kind actor = true
    · simp [tryRule_of_skips hs, hp, hs, ih hc]
    · rw [Bool.not_eq_true] at hs
      simp [seen_tryRule_of_no_time ht hc hs, chain, hp, hs, ih hafter, List.flatMap_append]

/-! ### Packets -/

lemma seen_tryPacketRule_of_no_time (ht : ctx.budget.timeout = 0)
    (hc : state.compiled.Sound ctx.budget) (r : Rule) (text : String) :
    (ctx.tryPacketRule actor r text).seen state = (some text,
      if r.isPacketRule then
        (ctx.refused (Text.stripColors (Text.lowerCase text)) r).flatMap (·.report)
      else []) := by
  cases hp : r.packet with
  | none => simp [tryPacketRule, Rule.isPacketRule, hp]
  | some p =>
    have hfresh : state.drawn.compiled.Alike ctx.budget ({} : State).compiled :=
      .inr ⟨hc, Cache.sound_nil _⟩
    have htested := (ignoresCache_ruleMatches ctx state.chance.pace r
      (Text.stripColors (Text.lowerCase text))).seen_eq hfresh
    simp only [tryPacketRule, hp]
    rw [Work.seen_bind, Work.seen_draw, chain_nil, Work.draw_apply, Work.seen_bind, htested,
      seen_ruleMatches_of_no_time ht]
    simp [chain, Rule.isPacketRule, hp]

lemma seen_tryPacketRules_of_no_time (ht : ctx.budget.timeout = 0)
    (hc : state.compiled.Sound ctx.budget) (rs : List Rule) (text : String) :
    (ctx.tryPacketRules actor rs text).seen state = (some text,
      ((rs.filter (·.isPacketRule)).flatMap
        (ctx.refused (Text.stripColors (Text.lowerCase text)))).flatMap (·.report)) := by
  induction rs generalizing state with
  | nil => rfl
  | cons r rs ih =>
    have hafter := (@respects_tryPacketRule ctx actor True r text).sound hc
    rw [tryPacketRules, Work.seen_bind]
    cases hr : r.isPacketRule with
    | false => simp [seen_tryPacketRule_of_no_time ht hc, chain, hr, ih hafter]
    | true => simp [seen_tryPacketRule_of_no_time ht hc, chain, hr, ih hafter, List.flatMap_append]

lemma seen_rewriteLeaf_of_no_time (ht : ctx.budget.timeout = 0)
    (hc : state.compiled.Sound ctx.budget) (text : String) :
    (ctx.rewriteLeaf rules actor text).seen state =
      (some text, (ctx.refusedInLeaf rules text).flatMap (·.report)) := by
  unfold rewriteLeaf refusedInLeaf
  by_cases h : text = ""
  · simp [h]
  · simp [h, seen_tryPacketRules_of_no_time ht hc]

/-- Without time the texts of a packet are tested one after the other, and none is changed. -/
theorem seen_rewriteTexts_of_no_time (ht : ctx.budget.timeout = 0)
    (hc : state.compiled.Sound ctx.budget) (texts : List String) :
    (ctx.rewriteTexts rules actor texts).seen state =
      (some texts, (texts.flatMap (ctx.refusedInLeaf rules)).flatMap (·.report)) := by
  induction texts generalizing state with
  | nil => rfl
  | cons s ss ih =>
    have hafter := (@respects_rewriteLeaf ctx rules actor True s).sound hc
    rw [rewriteTexts, Work.seen_bind]
    simp only [seen_rewriteLeaf_of_no_time ht hc, chain]
    rw [Work.seen_bind]
    simp [chain, ih hafter, List.flatMap_append]

theorem seen_rewritePacket_of_no_time (ht : ctx.budget.timeout = 0)
    (hc : state.compiled.Sound ctx.budget) (tree : Tree) :
    (ctx.rewritePacket rules actor tree).seen state =
      (some tree, (tree.texts.flatMap (ctx.refusedInLeaf rules)).flatMap (·.report)) := by
  have htexts := @seen_rewriteTexts_of_no_time ctx actor rules state ht hc tree.texts
  obtain ⟨hvalue, heffects⟩ := Prod.ext_iff.1 htexts
  simp only [Work.seen] at hvalue heffects
  simp [rewritePacket_eq, Work.seen, hvalue, heffects, Tree.withTexts_texts]

/-- Without time an evaluation leaves the text as it is and cancels nothing, and a packet stays as it is.
All that is seen is that there was an evaluation, and one report for each pattern of a rule that is tried:
its own one and one for each of its preparations. -/
theorem evaluate_of_no_time {state : State} (hc : state.compiled.Sound ctx.budget)
    (ht : ctx.settings.timeout = 0) (rules : RuleSet) (kind : EventKind) (actor : Actor)
    (text : String) :
    let tried := (rules.inOrder kind).filter fun r => !r.skips kind actor
    (ctx.evaluate rules kind actor text).seen state =
      (⟨text, false⟩, .count (.evaluation kind.label) ::
        (tried.flatMap (ctx.refused text)).flatMap (·.report)) ∧
    (∀ r ∈ tried, (ctx.refused text r).length =
      1 + r.stripBefore.isSome.toNat + r.replaceBefore.isSome.toNat +
        r.ignoredMessage.isSome.toNat) ∧
    ∀ tree, (ctx.rewritePacket rules actor tree).seen state =
      (some tree, (tree.texts.flatMap (ctx.refusedInLeaf rules)).flatMap (·.report)) := by
  intro tried
  refine ⟨?_, fun r _ => ?_, fun tree => ?_⟩
  · have hpass := @seen_tryRules_of_no_time ctx kind actor state ht hc (rules.inOrder kind) { text } rfl
    obtain ⟨hvalue, heffects⟩ := Prod.ext_iff.1 hpass
    simp only [Work.seen] at hvalue heffects
    rw [seen_evaluate, passSeen, hvalue, heffects]
    simp [tried]
  · rw [refused, List.length_map, Rule.length_tests]
  · exact seen_rewritePacket_of_no_time ht hc tree

/-- A malformed pattern and one for which there is no time are both reported, a rule that skips the player
is not tried, and a packet that would be held back passes. -/
theorem evaluate_of_no_time_of_deny :
    let ctx : Context := { settings := { timeout := 0 }, online := [] }
    let steve : Actor := ⟨"steve", "world", .survival, [], none⟩
    let deny : Rule := { pattern := "foo", stripBefore := some "(", cancels := true }
    let skipped : Rule := { pattern := "foo", ignoredEvent := some .chat, cancels := true }
    let packet : Rule := { pattern := "foo", packet := some { denies := true } }
    let rules : RuleSet := ⟨[(.general, [skipped]), (.chat, [deny]), (.packet, [packet])]⟩
    (ctx.evaluate rules .chat steve "foo").seen {} = (⟨"foo", false⟩,
      .count (.evaluation "chat") :: (GivenUp.report ⟨"(", "foo", .fault .malformed⟩ ++
        GivenUp.report ⟨"foo", "foo", .fault .timeout⟩)) ∧
    (ctx.rewritePacket rules steve (.list [.text "", .text "FOO"])).seen {} =
      (some (.list [.text "", .text "FOO"]), GivenUp.report ⟨"foo", "foo", .fault .timeout⟩) := by
  intro ctx steve deny skipped packet rules
  obtain ⟨hevaluate, -, hpacket⟩ :=
    @evaluate_of_no_time ctx {} (Cache.sound_nil _) rfl rules .chat steve "foo"
  refine ⟨?_, ?_⟩
  · rw [hevaluate]
    decide +kernel
  · rw [hpacket]
    refine Prod.ext rfl ?_
    decide +kernel

end Context

end Engine

end Moderation
