import Mathlib.Tactic.Lemma
import Moderation.Text.Split

/-!
The words of a text. A text is cut at each of its blanks, so that the words on both sides of a blank are those of
the text: trimming a text and joining texts with a blank between them keep the words. Characters that are
no blanks stay in the part at which they are put.
-/
namespace Moderation.Text
open Unicode

variable {f : Char → Bool} {cs : List Char}

/-! ### Parts -/

lemma extendFirst_append {ps : List (List Char)} (h : ps ≠ []) (c : Char) (qs : List (List Char)) :
    extendFirst c (ps ++ qs) = extendFirst c ps ++ qs := by
  cases ps with
  | nil => contradiction
  | cons p ps => rfl

lemma splitWhere_append_cons {b : Char} (hb : f b = true) (cs r : List Char) :
    splitWhere f (cs ++ b :: r) = splitWhere f cs ++ splitWhere f r := by
  induction cs with
  | nil => simp [splitWhere, hb]
  | cons c cs ih =>
    rw [List.cons_append, splitWhere, splitWhere, ih]
    split
    · rfl
    · exact extendFirst_append (splitWhere_ne_nil f cs) c _

lemma exists_splitWhere_eq_cons (f : Char → Bool) (cs : List Char) :
    ∃ p ps, splitWhere f cs = p :: ps :=
  List.exists_cons_of_ne_nil (splitWhere_ne_nil f cs)

lemma splitWhere_append {u p : List Char} {ps : List (List Char)} (hu : ∀ x ∈ u, f x = false)
    (h : splitWhere f cs = p :: ps) : splitWhere f (u ++ cs) = (u ++ p) :: ps := by
  induction u with
  | nil => exact h
  | cons c u ih =>
    obtain ⟨hc, hu⟩ := List.forall_mem_cons.1 hu
    rw [List.cons_append, splitWhere, hc, ih hu]
    rfl

lemma splitWhere_concat {d : Char} (hd : f d = false) (cs : List Char) :
    ∃ ps p, splitWhere f cs = ps ++ [p] ∧ splitWhere f (cs ++ [d]) = ps ++ [p ++ [d]] := by
  induction cs with
  | nil => exact ⟨[], [], rfl, by simp [splitWhere, hd]⟩
  | cons c cs ih =>
    obtain ⟨ps, p, h, hcat⟩ := ih
    rw [List.cons_append, splitWhere, splitWhere, h, hcat]
    by_cases hc : f c = true
    · exact ⟨[] :: ps, p, by simp [hc], by simp [hc]⟩
    · cases ps with
      | nil => exact ⟨[], c :: p, by simp [hc], by simp [hc]⟩
      | cons q ps => exact ⟨(c :: q) :: ps, p, by simp [hc], by simp [hc]⟩

/-! ### Words -/

/-- The words on both sides of a blank are those of the text. -/
theorem words_append_cons {b : Char} (hb : isBlank b = true) (cs r : List Char) :
    words (cs ++ b :: r) = words cs ++ words r := by
  rw [words, splitWhere_append_cons hb, List.filter_append, words, words]

lemma words_cons {b : Char} (hb : isBlank b = true) (r : List Char) : words (b :: r) = words r :=
  words_append_cons hb [] r

lemma words_trimStart (cs : List Char) : words (trimStart cs) = words cs := by
  induction cs with
  | nil => rfl
  | cons c cs ih =>
    rw [trimStart, List.dropWhile_cons]
    split
    · rename_i hc
      rw [words_cons hc]
      exact ih
    · rfl

lemma words_eq_nil (h : ∀ c ∈ cs, isBlank c = true) : words cs = [] := by
  induction cs with
  | nil => rfl
  | cons c cs ih =>
    obtain ⟨hc, hcs⟩ := List.forall_mem_cons.1 h
    rw [words_cons hc, ih hcs]

lemma words_append_blanks {bs : List Char} (h : ∀ b ∈ bs, isBlank b = true) (cs : List Char) :
    words (cs ++ bs) = words cs := by
  cases bs with
  | nil => rw [List.append_nil]
  | cons b bs =>
    obtain ⟨hb, hbs⟩ := List.forall_mem_cons.1 h
    rw [words_append_cons hb, words_eq_nil hbs, List.append_nil]

lemma words_trimEnd (cs : List Char) : words (trimEnd cs) = words cs := by
  have hcut : trimEnd cs ++ (cs.reverse.takeWhile isBlank).reverse = cs := by
    rw [trimEnd, trimStart, ← List.reverse_append, List.takeWhile_append_dropWhile, List.reverse_reverse]
  have hblanks : ∀ b ∈ (cs.reverse.takeWhile isBlank).reverse, isBlank b = true := fun b hb =>
    List.all_eq_true.1 List.all_takeWhile b (List.mem_reverse.1 hb)
  rw [← words_append_blanks hblanks (trimEnd cs), hcut]

/-- Trimming keeps the words. -/
theorem words_trim (cs : List Char) : words (trim cs) = words cs := by
  rw [trim, words_trimEnd, words_trimStart]

/-- Texts that are joined with a blank between them keep their words. -/
theorem words_join (ps : List (List Char)) : words (join [' '] ps) = ps.flatMap words := by
  induction ps with
  | nil => rfl
  | cons p ps ih =>
    cases ps with
    | nil => simp
    | cons q ps =>
      rw [join_cons_cons, List.append_assoc, List.singleton_append, words_append_cons rfl, ih,
        List.flatMap_cons (x := p)]

/-- A character that is put behind a word at the end of a text belongs to this word. -/
theorem words_concat {c d : Char} (hc : isBlank c = false) (hd : isBlank d = false) (cs : List Char) :
    ∃ ws w, words (cs ++ [c]) = ws ++ [w] ∧ words (cs ++ [c] ++ [d]) = ws ++ [w ++ [d]] := by
  obtain ⟨ps, p, -, hps⟩ := splitWhere_concat hc cs
  obtain ⟨qs, q, hqs, hcat⟩ := splitWhere_concat hd (cs ++ [c])
  obtain ⟨rfl, rfl⟩ : qs = ps ∧ q = p ++ [c] := by
    simpa using List.append_inj' (hqs.symm.trans hps) rfl
  exact ⟨qs.filter (!·.isEmpty), p ++ [c], by rw [words, hqs]; simp, by rw [words, hcat]; simp⟩

end Moderation.Text
