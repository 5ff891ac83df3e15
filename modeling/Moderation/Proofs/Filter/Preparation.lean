import Moderation.Proofs.Filter.Passes
import Moderation.Proofs.Text.SmallForms

/-!
Formatting codes in texts that are made ready to be compared. Codes are stripped last. That is too late
where special characters are left out, since the sign of a code is one and its letter is not, and runs
are shortened and capital sigmas made small with the codes still among them.
-/
namespace Moderation.Filter
open Unicode Text Text.Color

variable {c : Char} {cs : List Char}

/-! ### What is left out -/

@[simp] lemma isOrdinary_sign : isOrdinary '§' = false := by decide

lemma isOrdinary_of_isColorCode (h : isColorCode c = true) : isOrdinary c = true :=
  forall_ascii (P := fun c => isColorCode c = true → isOrdinary c = true) (by decide)
    (toNat_of_isColorCode h).2 h

lemma filter_strip (h : ¬Carries isColorCode cs) :
    (strip cs).filter isOrdinary = cs.filter isOrdinary := by
  fun_induction strip cs with
  | case1 c r hc ih =>
    obtain ⟨hcode, hr⟩ := not_or.1 (mt carries_cons_iff.2 h)
    have hc : c = '\u212A' := by
      have hno : isColorCode c = false := by simpa using hcode
      simpa [isStrippedCode, hno] using hc
    have hkelvin : isOrdinary '\u212A' = false := by decide
    rw [ih fun hr' => hr (carries_cons_iff.2 (.inr hr')), hc]
    simp [hkelvin]
  | case2 c r hc ih =>
    rw [List.filter_cons, List.filter_cons, ih fun hr => h (carries_cons_iff.2 (.inr hr))]
  | case3 c r hc ih =>
    rw [List.filter_cons, List.filter_cons, ih fun hr => h (carries_cons_iff.2 (.inr hr))]
  | case4 => rfl

lemma length_filter_strip_lt (h : Carries isColorCode cs) :
    ((strip cs).filter isOrdinary).length < (cs.filter isOrdinary).length := by
  obtain ⟨c, hc, before, after, rfl⟩ := h
  have hbefore := ((strip_sublist before).filter isOrdinary).length_le
  have hafter := ((strip_sublist after).filter isOrdinary).length_le
  rw [List.append_assoc, List.cons_append, strip_append_cons isStrippedCode_sign,
    List.cons_append, strip_sign_cons, if_pos (isStrippedCode_of_isColorCode hc)]
  have hcode : ('§' :: c :: after).filter isOrdinary = c :: after.filter isOrdinary := by
    rw [List.filter_cons_of_neg (by simp), List.filter_cons_of_pos (isOrdinary_of_isColorCode hc)]
  rw [List.nil_append, List.filter_append, List.filter_append, hcode, List.length_append,
    List.length_append, List.length_cons]
  omega

/-! ### Texts that are made ready -/

lemma prepare_special (text : String) :
    prepare true false text = .ofList (lowerText (text.toList.filter isOrdinary)) := by
  have hsign : '§' ∉ text.toList.filter isOrdinary := by simp
  simp [prepare, strip_eq_self (sign_not_mem_lowerText hsign)]

/-- With special characters left out and runs kept, the codes of a text make no difference exactly if it
carries none. -/
lemma prepare_special_stripColors_iff (text : String) :
    prepare true false text = prepare true false (stripColors text) ↔
      ¬Carries isColorCode text.toList := by
  have hlength (cs : List Char) :
      (lowerText (cs.filter isOrdinary)).length = (cs.filter isOrdinary).length :=
    length_lowerText (by simp [show isOrdinary 'İ' = false by decide])
  rw [prepare_special, prepare_special, String.ofList_inj, toList_stripColors]
  constructor
  · intro h hcode
    have := length_filter_strip_lt hcode
    rw [← hlength, ← hlength text.toList, h] at this
    exact Nat.lt_irrefl _ this
  · intro h
    rw [filter_strip h]

/-- A text whose signs all begin codes, made ready with its codes and with its codes stripped. With nothing
left out this is the same exactly if each capital sigma is a final one in both or in neither; with runs
shortened, if what is left of the codes' neighbours is the same. With special characters left out only
the signs go, and it is the same exactly if there are no codes. -/
theorem prepare_of_coded (text : String) (h : Coded text.toList) :
    (prepare false false text = prepare false false (stripColors text) ↔
      ∀ before after, text.toList = before ++ 'Σ' :: after →
        isFinal before after = isFinal (strip before) (strip after)) ∧
    ('Σ' ∉ text.toList →
      (prepare false true text = prepare false true (stripColors text) ↔
        lowerText (strip (shortened text.toList)) =
          lowerText (shortened (strip text.toList)))) ∧
    (∀ duplicate, prepare true duplicate text =
      prepare true duplicate (.ofList (text.toList.filter (· ≠ '§')))) ∧
    (prepare true false text = prepare true false (stripColors text) ↔
      ¬Carries isColorCode text.toList) := by
  have hsign : '§' ∉ strip text.toList := sign_not_mem_strip h
  refine ⟨?_, fun hsigma => ?_, fun duplicate => ?_, prepare_special_stripColors_iff text⟩
  · have hcoded : prepare false false text = .ofList (strip (lowerText text.toList)) := rfl
    have hplain : prepare false false (stripColors text) =
        .ofList (lowerText (strip text.toList)) := by
      simp [prepare, strip_eq_self (sign_not_mem_lowerText hsign)]
    rw [hcoded, hplain, String.ofList_inj, lowerText, lowerText, strip_lowerAfter_iff h]
    simp only [List.append_nil, isFinal]
  · have hruns {c : Char} {cs : List Char} (hc : c ∉ cs) : c ∉ shortened cs :=
      fun hm => hc ((shortened_sublist cs).subset hm)
    have hcoded : prepare false true text =
        .ofList (strip (lowerText (shortened text.toList))) := rfl
    have hplain : prepare false true (stripColors text) =
        .ofList (lowerText (shortened (strip text.toList))) := by
      simp [prepare, strip_eq_self (sign_not_mem_lowerText (hruns hsign))]
    rw [hcoded, hplain, String.ofList_inj, strip_lowerText (hruns hsigma)]
  · have hordinary : (text.toList.filter (· ≠ '§')).filter isOrdinary =
        text.toList.filter isOrdinary := by
      rw [List.filter_filter]
      refine List.filter_congr fun c _ => ?_
      by_cases hc : c = '§' <;> simp [hc]
    simp only [prepare, String.toList_ofList, if_true, hordinary]

/-- A coloured word is the word if nothing is left out, and another one without special characters. -/
theorem prepare_of_coded_word :
    Coded "§cRED text".toList ∧
      prepare false false "§cRED text" = prepare false false (stripColors "§cRED text") ∧
      prepare true false "§cRED text" ≠ prepare true false (stripColors "§cRED text") := by
  have hcoded : Coded "§cRED text".toList := by decide
  have hsigma : 'Σ' ∉ "§cRED text".toList := by decide
  obtain ⟨hplain, -, -, hspecial⟩ := prepare_of_coded "§cRED text" hcoded
  refine ⟨hcoded, hplain.2 fun before after he => ?_, fun h => hspecial.1 h ?_⟩
  · rw [he] at hsigma
    simp at hsigma
  · exact ⟨'c', by decide, by decide⟩

/-- The letter of a code is compared where special characters are left out, a code takes a character with
it where runs are shortened, and a letter of a code makes a sigma after it a final one. -/
theorem codes_are_compared :
    Coded "§cRED text".toList ∧ Coded "x§aaa".toList ∧ Coded "§cΣ".toList ∧
      prepare true false "§cRED text" = "cred text" ∧
      prepare true false (stripColors "§cRED text") = "red text" ∧
      prepare false true "x§aaa" = "xa" ∧ prepare false true (stripColors "x§aaa") = "xaa" ∧
      prepare false false "§cΣ" = "ς" ∧ prepare false false (stripColors "§cΣ") = "σ" := by
  refine ⟨?_, ?_, ?_, ?_, ?_, ?_, ?_, ?_, ?_⟩ <;> decide +kernel

end Moderation.Filter
