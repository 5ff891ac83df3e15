import Mathlib.Data.List.Infix
import Mathlib.Order.Bounds.Basic
import Mathlib.Tactic.Lemma
import Moderation.Filter.Similarity

/-!
Edits of texts: a character is put in, taken out or replaced. The least number of edits between two
texts is found from their first characters, and so from their last ones. It is a distance, as edits
can be taken back and made one after the other.
-/
namespace Moderation.Filter

/-- One character is put in, taken out or replaced by another one. -/
inductive Edit : List Char → List Char → Prop
  | insert (u : List Char) (c : Char) (v : List Char) : Edit (u ++ v) (u ++ c :: v)
  | delete (u : List Char) (c : Char) (v : List Char) : Edit (u ++ c :: v) (u ++ v)
  | substitute (u : List Char) (c d : Char) (v : List Char) : Edit (u ++ c :: v) (u ++ d :: v)

/-- So many edits, one after the other. -/
inductive Edits : Nat → List Char → List Char → Prop
  | done (as : List Char) : Edits 0 as as
  | step {n : Nat} {as bs cs : List Char} : Edit as bs → Edits n bs cs → Edits (n + 1) as cs

/-- The least cost of turning one text into another one, from their first characters: either these are
matched with each other, or the one is taken out, or the other one is put in. -/
def levenshtein : List Char → List Char → Nat
  | [], bs => bs.length
  | a :: as, [] => (a :: as).length
  | a :: as, b :: bs =>
    min (levenshtein as bs + if a = b then 0 else 1)
      (min (levenshtein as (b :: bs) + 1) (levenshtein (a :: as) bs + 1))
termination_by as bs => as.length + bs.length

variable {as bs cs : List Char} {m n : Nat}

/-! ### Edits one after the other -/

lemma Edit.symm (h : Edit as bs) : Edit bs as := by
  cases h with
  | insert u c v => exact .delete u c v
  | delete u c v => exact .insert u c v
  | substitute u c d v => exact .substitute u d c v

lemma Edit.cons (h : Edit as bs) (c : Char) : Edit (c :: as) (c :: bs) := by
  cases h with
  | insert u d v => exact .insert (c :: u) d v
  | delete u d v => exact .delete (c :: u) d v
  | substitute u d e v => exact .substitute (c :: u) d e v

lemma Edit.reverse (h : Edit as bs) : Edit as.reverse bs.reverse := by
  cases h with
  | insert u c v => simpa using Edit.insert v.reverse c u.reverse
  | delete u c v => simpa using Edit.delete v.reverse c u.reverse
  | substitute u c d v => simpa using Edit.substitute v.reverse c d u.reverse

lemma Edit.length_le (h : Edit as bs) : as.length ≤ bs.length + 1 := by
  cases h <;> simp only [List.length_append, List.length_cons] <;> omega

lemma Edit.edits (h : Edit as bs) : Edits 1 as bs := .step h (.done bs)

lemma Edits.trans (h : Edits m as bs) (h' : Edits n bs cs) : Edits (m + n) as cs := by
  induction h with
  | done as => simpa using h'
  | @step m as bs cs he _ ih =>
    rw [Nat.add_right_comm]
    exact .step he (ih h')

lemma Edits.symm (h : Edits n as bs) : Edits n bs as := by
  induction h with
  | done as => exact .done as
  | step he _ ih => exact ih.trans he.symm.edits

lemma Edits.cons (h : Edits n as bs) (c : Char) : Edits n (c :: as) (c :: bs) := by
  induction h with
  | done as => exact .done (c :: as)
  | step he _ ih => exact .step (he.cons c) ih

lemma Edits.reverse (h : Edits n as bs) : Edits n as.reverse bs.reverse := by
  induction h with
  | done as => exact .done as.reverse
  | step he _ ih => exact .step he.reverse ih

lemma Edits.length_le (h : Edits n as bs) : as.length ≤ bs.length + n := by
  induction h with
  | done as => exact Nat.le_refl _
  | step he _ ih =>
    have := he.length_le
    omega

lemma edits_nil (bs : List Char) : Edits bs.length [] bs := by
  induction bs with
  | nil => exact .done []
  | cons b bs ih => exact ih.trans (Edit.insert [] b bs).edits

/-! ### The least cost -/

@[simp] lemma levenshtein_nil_left (bs : List Char) : levenshtein [] bs = bs.length := by
  rw [levenshtein]

@[simp] lemma levenshtein_nil_right (as : List Char) : levenshtein as [] = as.length := by
  cases as <;> rw [levenshtein]

lemma levenshtein_cons_cons (a b : Char) (as bs : List Char) :
    levenshtein (a :: as) (b :: bs) = min (levenshtein as bs + if a = b then 0 else 1)
      (min (levenshtein as (b :: bs) + 1) (levenshtein (a :: as) bs + 1)) := by
  rw [levenshtein]

/-- The least cost is that of some edits. -/
theorem edits_levenshtein (as bs : List Char) : Edits (levenshtein as bs) as bs := by
  fun_induction levenshtein as bs with
  | case1 bs => exact edits_nil bs
  | case2 a as => exact (edits_nil (a :: as)).symm
  | case3 a as b bs ihmatch ihdelete ihinsert =>
    have hmatch : Edits (levenshtein as bs + if a = b then 0 else 1) (a :: as) (b :: bs) := by
      split
      · rename_i h
        subst h
        exact ihmatch.cons a
      · exact (ihmatch.cons a).trans (Edit.substitute [] a b bs).edits
    have hdelete : Edits (levenshtein as (b :: bs) + 1) (a :: as) (b :: bs) := by
      rw [Nat.add_comm]
      exact (Edit.delete [] a as).edits.trans ihdelete
    have hinsert : Edits (levenshtein (a :: as) bs + 1) (a :: as) (b :: bs) :=
      ihinsert.trans (Edit.insert [] b bs).edits
    exact min_rec' (fun n => Edits n (a :: as) (b :: bs)) hmatch
      (min_rec' (fun n => Edits n (a :: as) (b :: bs)) hdelete hinsert)

@[simp] lemma levenshtein_self (as : List Char) : levenshtein as as = 0 := by
  induction as with
  | nil => rw [levenshtein_nil_left, List.length_nil]
  | cons a as ih => simp [levenshtein_cons_cons, ih]

lemma levenshtein_cons_left_le (a : Char) (as bs : List Char) :
    levenshtein (a :: as) bs ≤ levenshtein as bs + 1 := by
  cases bs with
  | nil => simp
  | cons b bs =>
    rw [levenshtein_cons_cons]
    exact (min_le_right _ _).trans (min_le_left _ _)

lemma levenshtein_cons_right_le (b : Char) (as bs : List Char) :
    levenshtein as (b :: bs) ≤ levenshtein as bs + 1 := by
  cases as with
  | nil => simp
  | cons a as =>
    rw [levenshtein_cons_cons]
    exact (min_le_right _ _).trans (min_le_right _ _)

lemma levenshtein_le_cons (a : Char) (as bs : List Char) :
    levenshtein as bs ≤ levenshtein (a :: as) bs + 1 := by
  induction bs with
  | nil => simp only [levenshtein_nil_right, List.length_cons]; omega
  | cons b bs ih =>
    have := levenshtein_cons_right_le b as bs
    rw [levenshtein_cons_cons]
    omega

lemma levenshtein_substitute_le (c d : Char) (as bs : List Char) :
    levenshtein (c :: as) bs ≤ levenshtein (d :: as) bs + 1 := by
  induction bs with
  | nil => simp
  | cons b bs ih =>
    simp only [levenshtein_cons_cons]
    split <;> split <;> omega

/-- What changes the cost by no more than one does so after the same beginning too. -/
lemma levenshtein_append_le {as as' : List Char}
    (h : ∀ bs, levenshtein as bs ≤ levenshtein as' bs + 1) (u bs : List Char) :
    levenshtein (u ++ as) bs ≤ levenshtein (u ++ as') bs + 1 := by
  induction u generalizing bs with
  | nil => exact h bs
  | cons c u ih =>
    induction bs with
    | nil =>
      have hlength := h []
      simp only [levenshtein_nil_right, List.length_append, List.length_cons] at hlength ⊢
      omega
    | cons b bs ihb =>
      have hmatch := ih bs
      have hdelete := ih (b :: bs)
      rw [List.cons_append, List.cons_append] at ihb ⊢
      rw [levenshtein_cons_cons, levenshtein_cons_cons]
      omega

lemma Edit.levenshtein_le (h : Edit as cs) (bs : List Char) :
    levenshtein as bs ≤ levenshtein cs bs + 1 := by
  cases h with
  | insert u c v => exact levenshtein_append_le (levenshtein_le_cons c v) u bs
  | delete u c v => exact levenshtein_append_le (levenshtein_cons_left_le c v) u bs
  | substitute u c d v => exact levenshtein_append_le (levenshtein_substitute_le c d v) u bs

/-- No edits are fewer than the least cost. -/
theorem Edits.levenshtein_le (h : Edits n as bs) : levenshtein as bs ≤ n := by
  induction h with
  | done as => rw [levenshtein_self]
  | step he _ ih => exact (he.levenshtein_le _).trans (Nat.succ_le_succ ih)

/-- The least cost is the least number of edits. -/
theorem isLeast_levenshtein (as bs : List Char) :
    IsLeast {n | Edits n as bs} (levenshtein as bs) :=
  ⟨edits_levenshtein as bs, fun _ h => h.levenshtein_le⟩

/-! ### A distance -/

lemma levenshtein_comm (as bs : List Char) : levenshtein as bs = levenshtein bs as :=
  le_antisymm (edits_levenshtein bs as).symm.levenshtein_le
    (edits_levenshtein as bs).symm.levenshtein_le

lemma levenshtein_triangle (as bs cs : List Char) :
    levenshtein as cs ≤ levenshtein as bs + levenshtein bs cs :=
  ((edits_levenshtein as bs).trans (edits_levenshtein bs cs)).levenshtein_le

lemma levenshtein_eq_zero_iff : levenshtein as bs = 0 ↔ as = bs := by
  constructor
  · intro h
    have he := edits_levenshtein as bs
    rw [h] at he
    cases he
    rfl
  · rintro rfl
    exact levenshtein_self as

lemma length_le_levenshtein (as bs : List Char) : as.length ≤ bs.length + levenshtein as bs :=
  (edits_levenshtein as bs).length_le

lemma levenshtein_le_max (as bs : List Char) :
    levenshtein as bs ≤ max as.length bs.length := by
  fun_induction levenshtein as bs with
  | case1 bs => exact le_max_right _ _
  | case2 a as => exact le_max_left _ _
  | case3 a as b bs ihmatch ihdelete ihinsert =>
    simp only [List.length_cons]
    split <;> omega

/-! ### From the last characters -/

lemma levenshtein_reverse (as bs : List Char) :
    levenshtein as.reverse bs.reverse = levenshtein as bs := by
  have hle (as bs : List Char) : levenshtein as.reverse bs.reverse ≤ levenshtein as bs :=
    (edits_levenshtein as bs).reverse.levenshtein_le
  refine le_antisymm (hle as bs) ?_
  simpa using hle as.reverse bs.reverse

lemma levenshtein_concat_concat (a b : Char) (as bs : List Char) :
    levenshtein (as ++ [a]) (bs ++ [b]) = min (levenshtein as bs + if a = b then 0 else 1)
      (min (levenshtein as (bs ++ [b]) + 1) (levenshtein (as ++ [a]) bs + 1)) := by
  have h := levenshtein_cons_cons a b as.reverse bs.reverse
  have hcons (c : Char) (cs : List Char) : c :: cs.reverse = (cs ++ [c]).reverse := by simp
  simpa only [hcons, levenshtein_reverse] using h

/-- Where the last characters are the same, nothing is gained by not matching them. -/
lemma levenshtein_concat_same (a : Char) (as bs : List Char) :
    levenshtein (as ++ [a]) (bs ++ [a]) = levenshtein as bs := by
  have hdelete : levenshtein as bs ≤ levenshtein as (bs ++ [a]) + 1 := by
    have he : Edit (bs ++ [a]) bs := by simpa using Edit.delete bs a []
    exact ((edits_levenshtein as (bs ++ [a])).trans he.edits).levenshtein_le
  have hinsert : levenshtein as bs ≤ levenshtein (as ++ [a]) bs + 1 := by
    have he : Edit as (as ++ [a]) := by simpa using Edit.insert as a []
    exact he.levenshtein_le bs
  rw [levenshtein_concat_concat, if_pos rfl]
  omega

end Moderation.Filter
