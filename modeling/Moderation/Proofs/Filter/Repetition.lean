import Moderation.Proofs.Filter.Delay
import Moderation.Proofs.Filter.Similarity

/-!
Messages that repeat the one before. The message that is kept is the last one that was allowed and
compared, so that no message is allowed that says nearly the same, and that message itself is not
allowed again.
-/
namespace Moderation.Filter

/-! ### What is kept -/

namespace SpamFilter

/-- Whether a message is exempt from the comparison with the one before. -/
def skipsComparison (f : SpamFilter) (text : String) (bypass : Bypass) : Bool :=
  bypass.similarity || f.similarityWhitelist.contains text

/-- The text of a message that was allowed and not exempt from the comparison. -/
def accepted? (f : SpamFilter) (d : Decision) : Option String :=
  match d.attempt.sent with
  | .message text =>
    if d.verdict = .allowed ∧ f.skipsComparison text d.attempt.bypass = false then some text else none
  | .command _ => none

/-- The messages that were allowed and not exempt from the comparison, the first one first. -/
def accepted (f : SpamFilter) (h : History) (as : List Attempt) : List String :=
  (f.decisions h as).filterMap f.accepted?

end SpamFilter

section Check
variable {f : SpamFilter} {h : History} {text : String} {bypass : Bypass} {now : Nat}

/-- A message that need not wait is compared, unless it is exempt, and kept if it is allowed then. -/
theorem check_message_of_no_wait (hs : f.settings.messages.checksSimilarity = true)
    (hw : (f.delayOf ⟨.message text, bypass, now⟩ h).1 = none) :
    let t := (f.delayOf ⟨.message text, bypass, now⟩ h).2
    f.check (.message text) bypass now h =
      if f.skipsComparison text bypass then (.allowed, { h with messages := t })
      else if isSimilar f.settings.messages h.messages.text (f.prepared text) then
        (.similar, { h with messages := t })
      else (.allowed, { h with messages := { t with text := some (f.prepared text) } }) := by
  have hw : (checkDelay f.settings.messages (bypass.delay || f.delayWhitelist.contains text) now
      h.messages).1 = none := hw
  simp only [SpamFilter.check, SpamFilter.checkMessage, hw, hs, checkDelay_text, Bool.true_and]
  have hskip : (bypass.similarity || f.similarityWhitelist.contains text) =
    f.skipsComparison text bypass := rfl
  rw [hskip]
  cases f.skipsComparison text bypass with
  | true => rfl
  | false =>
    have ht : (checkDelay f.settings.messages (bypass.delay || f.delayWhitelist.contains text) now
        h.messages).2.text = h.messages.text := checkDelay_text ..
    cases isSimilar f.settings.messages h.messages.text (f.prepared text) <;> rfl

/-- Only a message that is accepted takes the place of the text that was kept. -/
lemma text_check (hs : f.settings.messages.checksSimilarity = true) (a : Attempt) (h : History) :
    (f.check a.sent a.bypass a.time h).2.messages.text =
      ((f.accepted? ⟨a, (f.check a.sent a.bypass a.time h).1⟩).map f.prepared).or
        h.messages.text := by
  obtain ⟨sent, bypass, now⟩ := a
  cases sent with
  | command text => rfl
  | message text =>
    cases hw : (f.delayOf ⟨.message text, bypass, now⟩ h).1 with
    | some wait => simp [check_of_wait hw, SpamFilter.accepted?]
    | none =>
      have ht : (f.delayOf ⟨.message text, bypass, now⟩ h).2.text = h.messages.text :=
        checkDelay_text ..
      simp only [check_message_of_no_wait hs hw, SpamFilter.accepted?]
      split
      · rename_i hskip
        simp [ht, hskip]
      · split
        · simp [ht]
        · rename_i hskip _
          simp [hskip]

lemma accepted_cons (a : Attempt) (as : List Attempt) (h : History) :
    f.accepted h (a :: as) = (f.accepted? ⟨a, (f.check a.sent a.bypass a.time h).1⟩).toList ++
      f.accepted (f.check a.sent a.bypass a.time h).2 as := by
  simp only [SpamFilter.accepted, SpamFilter.decisions, List.filterMap_cons]
  cases f.accepted? ⟨a, (f.check a.sent a.bypass a.time h).1⟩ <;> rfl

/-- What is kept after a run is the last message that was accepted, or else what was kept before. -/
theorem text_historyAfter (hs : f.settings.messages.checksSimilarity = true) (h : History)
    (as : List Attempt) :
    (f.historyAfter h as).messages.text =
      ((f.accepted h as).getLast?.map f.prepared).or h.messages.text := by
  induction as generalizing h with
  | nil => rfl
  | cons a as ih =>
    change (f.historyAfter (f.check a.sent a.bypass a.time h).2 as).messages.text = _
    rw [ih, text_check hs, accepted_cons, List.getLast?_append, ← Option.or_assoc, Option.map_or]
    cases f.accepted? ⟨a, (f.check a.sent a.bypass a.time h).1⟩ <;> rfl

lemma isSimilar_of_allowed (hs : f.settings.messages.checksSimilarity = true)
    (hc : f.skipsComparison text bypass = false)
    (ha : (f.check (.message text) bypass now h).1 = .allowed) :
    isSimilar f.settings.messages h.messages.text (f.prepared text) = false := by
  cases hw : (f.delayOf ⟨.message text, bypass, now⟩ h).1 with
  | some wait => simp [check_of_wait hw] at ha
  | none =>
    by_contra hsim
    rw [Bool.not_eq_false] at hsim
    simp [check_message_of_no_wait hs hw, hc, hsim] at ha

lemma isSimilar_self {limits : SpamLimits} (hs : limits.checksSimilarity = true) (text : String) :
    isSimilar limits (some text) text = true := by
  simp only [SpamLimits.checksSimilarity, Bool.and_eq_true, decide_eq_true_eq] at hs
  simp [isSimilar, hs.2]

lemma check_eq_tooFast_iff {a : Attempt} {wait : Nat} :
    (f.check a.sent a.bypass a.time h).1 = .tooFast wait ↔ (f.delayOf a h).1 = some wait := by
  cases hw : (f.delayOf a h).1 with
  | some w => simp [check_of_wait hw]
  | none =>
    obtain ⟨v, text, hfast, -, hcheck⟩ := check_of_no_wait hw
    rw [hcheck]
    cases v <;> simp_all [Verdict.isTooFast]

lemma check_of_tooFast {a : Attempt} {wait : Nat}
    (hv : (f.check a.sent a.bypass a.time h).1 = .tooFast wait) :
    (f.check a.sent a.bypass a.time h).2 = h := by
  rw [check_of_wait (check_eq_tooFast_iff.1 hv)]

lemma check_of_similar {a : Attempt} (hv : (f.check a.sent a.bypass a.time h).1 = .similar) :
    ∃ time, (time = (h.track a.sent.channel).time ∨ time = some a.time) ∧
      (f.check a.sent a.bypass a.time h).2 =
        h.put a.sent.channel { h.track a.sent.channel with time } := by
  cases hw : (f.delayOf a h).1 with
  | some wait => simp [check_of_wait hw] at hv
  | none =>
    obtain ⟨v, kept, -, htext, hcheck⟩ := check_of_no_wait hw
    rw [hcheck] at hv ⊢
    refine ⟨(f.delayOf a h).2.time, ?_, by rw [htext hv]⟩
    simp only [SpamFilter.delayOf, checkDelay]
    split
    · exact Or.inl rfl
    · exact Or.inr rfl

end Check

/-- At every point of a run the text that is kept is that of the last message that was accepted. So
a message that is compared and allowed is not too similar to that one, and that one is not allowed
again. A text that came too soon leaves the history as it is, and one that is too similar changes
nothing but the time from which the delay counts. -/
theorem kept_message (f : SpamFilter) (hs : f.settings.messages.checksSimilarity = true)
    (as : List Attempt) :
    let h := f.historyAfter {} as
    let last := (f.accepted {} as).getLast?
    h.messages.text = last.map f.prepared ∧
    (∀ text bypass now, f.skipsComparison text bypass = false →
      (f.check (.message text) bypass now h).1 = .allowed → ∀ previous ∈ last,
        similarity (f.prepared text) (f.prepared previous) ≤
          f.settings.messages.similarityPercentage) ∧
    (∀ text ∈ last, ∀ bypass now, f.skipsComparison text bypass = false →
      (f.check (.message text) bypass now h).1 ≠ .allowed) ∧
    ∀ a : Attempt,
      (∀ wait, (f.check a.sent a.bypass a.time h).1 = .tooFast wait →
        (f.check a.sent a.bypass a.time h).2 = h) ∧
      ((f.check a.sent a.bypass a.time h).1 = .similar →
        ∃ time, (time = (h.track a.sent.channel).time ∨ time = some a.time) ∧
          (f.check a.sent a.bypass a.time h).2 =
            h.put a.sent.channel { h.track a.sent.channel with time }) := by
  intro h last
  have hkept : h.messages.text = last.map f.prepared := by
    simpa using text_historyAfter hs {} as
  refine ⟨hkept, ?_, ?_, fun a => ⟨fun wait => check_of_tooFast, check_of_similar⟩⟩
  · intro text bypass now hc ha previous hp
    have hsim := isSimilar_of_allowed hs hc ha
    rw [hkept, hp] at hsim
    simpa [isSimilar] using hsim
  · intro text ht bypass now hc ha
    have hsim := isSimilar_of_allowed hs hc ha
    rw [hkept, ht] at hsim
    simp [isSimilar_self hs] at hsim

/-- A message in other letters is too similar, and the message itself is not allowed again, even after
one that is exempt. -/
theorem kept_message_again :
    let f : SpamFilter := ⟨{}, .beginnings [], .beginnings ["gg"]⟩
    let say (text : String) (time : Nat) : Attempt := ⟨.message text, ⟨false, false⟩, time⟩
    let as := [say "buy cheap gold now" 0, say "gg everyone" (2 * second),
      say "Buy cheap gold now!" (4 * second)]
    let h := f.historyAfter {} as
    f.settings.messages.checksSimilarity = true ∧
      (f.decisions {} as).map (·.verdict) = [.allowed, .allowed, .similar] ∧
      f.skipsComparison "buy cheap gold now" ⟨false, false⟩ = false ∧
      h.messages.text = some "buy cheap gold now" ∧
      (f.check (.message "buy cheap gold now") ⟨false, false⟩ (9 * second) h).1 ≠ .allowed := by
  intro f say as h
  have hs : f.settings.messages.checksSimilarity = true := by decide
  have hlast : (f.accepted {} as).getLast? = some "buy cheap gold now" := by decide +kernel
  have hc : f.skipsComparison "buy cheap gold now" ⟨false, false⟩ = false := by decide +kernel
  obtain ⟨hkept, -, hagain, -⟩ := kept_message f hs as
  refine ⟨hs, by decide +kernel, hc, ?_, hagain _ hlast _ _ hc⟩
  rw [hkept, hlast]
  decide +kernel

end Moderation.Filter
