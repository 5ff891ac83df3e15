import Moderation.Proofs.Engine.Cancellation
import Moderation.Proofs.Engine.Replacement
import Moderation.Proofs.Regex.Literal
import Moderation.Proofs.Rule.Texts
import Moderation.Proofs.Text.Color

/-!
A file with one rule that denies a word of ASCII letters and digits. It holds back the texts in which
the word stands once their formatting codes are gone, in letters of either case and at any place, and
of the texts in ASCII no others. No text is changed.
-/
namespace Moderation
open Text Unicode

/-- A rule that denies a word, and does nothing else. -/
def Rule.denying (word : String) : Rule := { pattern := word, cancels := true }

section Reading
variable {c : Char} {word : String}

lemma not_blank_of_alphanumeric (h : isAsciiAlphanumeric c = true) : isBlank c = false :=
  forall_ascii (P := fun c => isAsciiAlphanumeric c = true → isBlank c = false)
    (by decide +kernel) (toNat_lt_of_alphanumeric h) h

lemma not_mem_of_alphanumeric (hw : ∀ c ∈ word.toList, isAsciiAlphanumeric c = true)
    (hc : isAsciiAlphanumeric c = false) : c ∉ word.toList := fun h => by
  rw [hw c h] at hc
  contradiction

lemma linesOf_deniedWord (hne : word ≠ "")
    (hw : ∀ c ∈ word.toList, isAsciiAlphanumeric c = true) :
    linesOf ("match " ++ word ++ "\nthen deny") = [⟨1, "match " ++ word⟩, ⟨2, "then deny"⟩] := by
  -- the first line ends with the word, and so neither with a line break nor with a blank
  have hmem : '\n' ∉ ("match " ++ word).toList := by
    rw [String.toList_append, List.mem_append, not_or]
    exact ⟨by decide, not_mem_of_alphanumeric hw (by decide)⟩
  have htrim : trim ("match " ++ word).toList = ("match " ++ word).toList := by
    refine trim_eq_self (by simp; decide) fun c hc => ?_
    have hlast : ("match " ++ word).toList.getLast? = word.toList.getLast? := by
      rw [String.toList_append, List.getLast?_append_of_ne_nil]
      simpa using hne
    rw [hlast] at hc
    exact not_blank_of_alphanumeric (hw c (List.mem_of_getLast? hc))
  have hsays : saysNothing ("match " ++ word) = false := by
    simp [saysNothing, beginsWith, List.isPrefixOf]
  refine @linesOf_join _ ["match " ++ word, "then deny"] (List.cons_ne_nil _ _) (by simp) ?_
  rintro l (_ | ⟨_, _ | ⟨_, ⟨⟩⟩⟩)
  · exact ⟨hmem, htrim, hsays⟩
  · decide +kernel

/-- The file is read as the rule that denies the word. -/
theorem readRules_deniedWord (hne : word ≠ "")
    (hw : ∀ c ∈ word.toList, isAsciiAlphanumeric c = true) (handlers : Registry) :
    readRules .general handlers ("match " ++ word ++ "\nthen deny") = .ok [.denying word] := by
  have hopen : after Progress.opening ("match " ++ word) = some word := after_eq_some_iff.2 rfl
  have hfirst : Progress.step .general handlers {} ⟨1, "match " ++ word⟩ =
      .ok ⟨[], some ⟨{ pattern := word }, 1⟩⟩ := by
    rw [Progress.step, hopen]
    rfl
  rw [readRules, linesOf_deniedWord hne hw, steps_cons, hfirst]
  rfl

end Reading

namespace Engine.Context
variable {ctx : Context} {kind : EventKind} {actor : Actor} {state : State} {word text : String}

lemma value_fire_denying (ctx : Context) (chance : Chance) (kind : EventKind) (actor : Actor)
    (word : String) (p : Pass) (hp : p.cancelled = false) (state : State) :
    (ctx.fire chance (.denying word) kind actor p state).value = { p with cancelled := true } := by
  simp [fire, handled, Rule.denying, hp]

/-- A rule that only denies holds a text back exactly if its word has a match. -/
lemma value_tryRule_denying {found : Bool}
    (hm : (ctx.budget.isMatch state.chance.pace.search word text state.drawn).value = found) :
    (ctx.tryRule kind actor (.denying word) { text } state).value =
      { text, cancelled := found } := by
  have hskips : (Rule.denying word).skips kind actor = false := rfl
  have hplain : ctx.ruleMatches state.chance.pace (.denying word) text =
      ctx.budget.isMatch state.chance.pace.search word text :=
    ruleMatches_of_plain rfl rfl rfl ctx _ text
  cases found with
  | false => rw [tryRule_of_no_match hskips (by rw [hplain, hm])]
  | true => rw [tryRule_of_match hskips (by rw [hplain, hm]), value_fire_denying _ _ _ _ _ _ rfl]

lemma value_evaluate_denying {rules : RuleSet} (hr : rules.inOrder kind = [.denying word])
    (hc : state.compiled.Sound ctx.budget) {found : Bool}
    (hm : (ctx.budget.isMatch state.chance.pace.search word text {}).value = found) :
    (ctx.evaluate rules kind actor text state).value = ⟨text, found⟩ := by
  have hseen := congrArg Prod.fst (seen_evaluate ctx kind actor rules text state)
  have hfresh : state.drawn.compiled.Alike ctx.budget ({} : State).compiled :=
    .inr ⟨hc, Cache.sound_nil _⟩
  have hv : (ctx.tryRule kind actor (.denying word) { text } state).value =
      { text, cancelled := found } :=
    value_tryRule_denying (((Budget.ignoresCache_isMatch ..).value_eq hfresh).trans hm)
  simp only [Work.seen, passSeen, hr] at hseen
  rw [hseen]
  cases found <;> simp [tryRules, hv]

/-- A word is found where it stands in the text without its codes, and in ASCII only there. -/
lemma value_isMatch_word {b : Budget} {looks : Looks} (htime : b.inTime looks 2 = true)
    (hsize : b.library.refuses ("(?i)".toList ++ word.toList) = false)
    (hw : ∀ c ∈ word.toList, isAsciiAlphanumeric c = true) (text : String) :
    (Mentions word.toList (stripColors text).toList →
      (b.isMatch looks word text {}).value = true) ∧
    ((∀ c ∈ (stripColors text).toList, c.toNat < 128) →
      ¬Mentions word.toList (stripColors text).toList →
      (b.isMatch looks word text {}).value = false) := by
  have hsource : (Mode.normalized.source word).toList = "(?i)".toList ++ word.toList := by
    simp only [Mode.source, String.toList_append]
    rw [stripColors_eq_self (not_mem_of_alphanumeric hw (by decide))]
  let re : Regex.Compiled := ⟨.literal word.toList, [], false, 0⟩
  have hc : (b.compile (Mode.normalized.source word) {}).value = .ok re := by
    simp only [Budget.compile, hsource, Regex.compile?_literal hw hsize, List.lookup_nil, re]
  -- the clock is looked at before the search and after it
  have hsettle {found : Bool} (h : re.isMatch (stripColors text).toList = some found) :
      b.settle looks (re.matchUse (stripColors text).toList) = .ok found := by
    simp only [Budget.settle, Regex.Compiled.matchUse, h, htime, if_true]
  refine ⟨fun h => ?_, fun ha h => ?_⟩
  · rw [Budget.isMatch_of_settle hc (hsettle (Regex.isMatch_literal_of_mentions hw h))]
  · rw [Budget.isMatch_of_settle hc (hsettle (Regex.isMatch_literal_of_not_mentions hw ha h))]

/-- A file with one rule that denies a word of letters and digits can be read, and with it a text is held
back if the word stands somewhere in it without its codes, up to the case of letters. If it does not,
a text in ASCII goes through. In both cases the text is not changed. The pattern must not be too large
for the library, and the search must be in time. -/
theorem evaluate_deniedWord (hne : word ≠ "")
    (hw : ∀ c ∈ word.toList, isAsciiAlphanumeric c = true) (handlers : Registry) :
    ∃ rules : RuleSet, (readRules .general handlers ("match " ++ word ++ "\nthen deny")).bind
        (RuleSet.insert {} .general) = .ok rules ∧
      ∀ (ctx : Context) (kind : EventKind) (actor : Actor) (text : String) (state : State),
        ctx.library.refuses ("(?i)".toList ++ word.toList) = false →
        ctx.budget.inTime state.chance.pace.search 2 = true → state.compiled.Sound ctx.budget →
        let e := (ctx.evaluate rules kind actor text state).value
        (Mentions word.toList (stripColors text).toList → e = ⟨text, true⟩) ∧
        ((∀ c ∈ (stripColors text).toList, c.toNat < 128) →
          ¬Mentions word.toList (stripColors text).toList → e = ⟨text, false⟩) := by
  refine ⟨⟨[(.general, [.denying word])]⟩, ?_, fun ctx kind actor text state hsize htime hc => ?_⟩
  · rw [readRules_deniedWord hne hw]
    rfl
  · have hr : RuleSet.inOrder ⟨[(.general, [.denying word])]⟩ kind = [.denying word] := by
      cases kind <;> rfl
    obtain ⟨hfound, hnone⟩ := value_isMatch_word (b := ctx.budget) htime hsize hw text
    exact ⟨fun h => value_evaluate_denying hr hc (hfound h),
      fun ha h => value_evaluate_denying hr hc (hnone ha h)⟩

/-- A code within the word does not hide it from the rule, and a text without it goes through. -/
theorem evaluate_deniedWord_among_codes :
    let ctx : Context := { settings := {}, online := [] }
    let steve : Actor := ⟨"steve", "world", .survival, [], none⟩
    ∃ rules : RuleSet, (readRules .general ⟨[]⟩ "match Noob1\nthen deny").bind
        (RuleSet.insert {} .general) = .ok rules ∧
      (ctx.evaluate rules .chat steve "you n§co§loB1!" {}).value = ⟨"you n§co§loB1!", true⟩ ∧
      (ctx.evaluate rules .sign steve "no ob1" {}).value = ⟨"no ob1", false⟩ := by
  intro ctx steve
  have hword : "Noob1".toList.all isAsciiAlphanumeric = true := by decide
  obtain ⟨rules, hread, h⟩ :=
    @evaluate_deniedWord "Noob1" (by decide) (List.all_eq_true.1 hword) ⟨[]⟩
  have hrun (kind : EventKind) (text : String) :=
    h ctx kind steve text {} rfl (by decide) (Cache.sound_nil _)
  have hm : Mentions "Noob1".toList (stripColors "you n§co§loB1!").toList := by
    decide +kernel
  have hn : ¬Mentions "Noob1".toList (stripColors "no ob1").toList := by decide +kernel
  have ha : (stripColors "no ob1").toList.all (fun c => c.toNat < 128) = true := by decide +kernel
  exact ⟨rules, hread, (hrun .chat _).1 hm,
    (hrun .sign _).2 (fun c hc => of_decide_eq_true (List.all_eq_true.1 ha c hc)) hn⟩

end Engine.Context

end Moderation
