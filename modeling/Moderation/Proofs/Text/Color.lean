import Mathlib.Tactic.Lemma
import Moderation.Text.Color

/-!
Texts without their formatting codes, part by part. A code never reaches over a character that is no
code character, so the parts before and after it can be stripped alone.
-/
namespace Moderation.Text

namespace Color

lemma strip_cons_of_ne {c : Char} (hc : c ≠ '§') (cs : List Char) :
    strip (c :: cs) = c :: strip cs := by
  cases cs with
  | nil => rw [strip]; simp
  | cons d r => rw [strip]; simp [hc]

lemma strip_sign_cons (c : Char) (cs : List Char) :
    strip ('§' :: c :: cs) =
      if isStrippedCode c = true then strip cs else '§' :: strip (c :: cs) := by
  rw [strip]

@[simp] theorem strip_sign : strip ['§'] = ['§'] := by decide

/-- A text without a section sign is stripped of nothing, and neither is what it begins. -/
theorem strip_append_of_no_sign {as : List Char} (h : '§' ∉ as) (bs : List Char) :
    strip (as ++ bs) = as ++ strip bs := by
  induction as with
  | nil => rfl
  | cons a as ih =>
    simp only [List.mem_cons, not_or] at h
    obtain ⟨ha, has⟩ := h
    rw [List.cons_append, strip_cons_of_ne (Ne.symm ha), ih has, List.cons_append]

/-- No code reaches over a character that is no code character. -/
theorem strip_append_cons {b : Char} (hb : isStrippedCode b = false) (as bs : List Char) :
    strip (as ++ b :: bs) = strip as ++ strip (b :: bs) := by
  fun_induction strip as with
  | case1 c r hc ih => rw [List.cons_append, List.cons_append, strip_sign_cons, if_pos hc, ih]
  | case2 c r hc ih =>
    rw [List.cons_append, List.cons_append, strip_sign_cons, if_neg hc, ← List.cons_append, ih,
      List.cons_append]
  | case3 c r hc ih =>
    by_cases h : c = '§'
    · -- the sign is the last character before
      subst h
      cases r with
      | nil => simp [strip_sign_cons, hb]
      | cons d r => exact absurd rfl (hc d r rfl)
    · rw [List.cons_append, strip_cons_of_ne h, ih, List.cons_append]
  | case4 => simp

/-- Stripping takes characters out and does nothing else. -/
theorem strip_sublist (cs : List Char) : (strip cs).Sublist cs := by
  fun_induction strip cs with
  | case1 c r hc ih => exact (ih.cons c).cons '§'
  | case2 c r hc ih => exact ih.cons_cons '§'
  | case3 c r hc ih => exact ih.cons_cons c
  | case4 => exact List.Sublist.refl []

theorem mem_of_mem_strip {c : Char} {cs : List Char} (h : c ∈ strip cs) : c ∈ cs :=
  (strip_sublist cs).subset h

lemma mem_of_mem_translate {c : Char} {cs : List Char} (h : c ∈ translate cs) :
    c ∈ cs ∨ c = '§' ∨ ∃ d, isColorCode d = true ∧ c = d.toLower := by
  fun_induction translate cs with
  | case1 d r hd ih =>
    obtain rfl | h := List.mem_cons.1 h
    · exact .inr (.inl rfl)
    · obtain rfl | h := List.mem_cons.1 h
      · exact .inr (.inr ⟨d, hd, rfl⟩)
      · exact (ih h).imp_left fun h => List.mem_cons_of_mem _ (List.mem_cons_of_mem _ h)
  | case2 d r hd ih =>
    obtain rfl | h := List.mem_cons.1 h
    · exact .inl List.mem_cons_self
    · exact (ih h).imp_left (List.mem_cons_of_mem _)
  | case3 d r hd ih =>
    obtain rfl | h := List.mem_cons.1 h
    · exact .inl List.mem_cons_self
    · exact (ih h).imp_left (List.mem_cons_of_mem _)
  | case4 => contradiction

end Color

theorem mem_of_mem_stripColors {c : Char} {s : String} (h : c ∈ (stripColors s).toList) :
    c ∈ s.toList := by
  rw [toList_stripColors] at h
  exact Color.mem_of_mem_strip h

theorem stripColors_eq_self {s : String} (h : '§' ∉ s.toList) : stripColors s = s :=
  String.toList_injective (by rw [toList_stripColors, Color.strip_eq_self h])

/-- A label without a section sign stays as it is. -/
theorem stripColors_label {a : String} (h : '§' ∉ a.toList) (b : String) :
    stripColors (a ++ b) = a ++ stripColors b :=
  String.toList_injective (by simp [Color.strip_append_of_no_sign h])

/-- Two parts are stripped alone if the second begins with a character that is no code character. -/
theorem stripColors_append {b : String} (h : b.toList.head?.any isStrippedCode = false)
    (a : String) : stripColors (a ++ b) = stripColors a ++ stripColors b := by
  apply String.toList_injective
  rw [toList_stripColors, String.toList_append, String.toList_append, toList_stripColors,
    toList_stripColors]
  cases hb : b.toList with
  | nil => simp
  | cons c cs =>
    rw [hb] at h
    exact Color.strip_append_cons (by simpa using h) ..

end Moderation.Text
