import Mathlib.Data.List.Basic
import Moderation.Proofs.Filter.Edits
import Moderation.Text.Basic

/-!
The table of costs. A row holds the least costs of turning a text into each beginning of another one,
and adding a character to the first text makes the next row out of it. So the distance of two texts is
the least number of edits between their small forms.
-/
namespace Moderation.Filter
open Unicode

/-- The least costs of turning a text into longer and longer beginnings of another one, beyond a
beginning that is passed. -/
def costsBeyond (as : List Char) : (passed : List Char) → List Char → List Nat
  | _, [] => []
  | passed, b :: bs => levenshtein as (passed ++ [b]) :: costsBeyond as (passed ++ [b]) bs

/-- The cost that the table gives to two characters, where equal ones are matched without comparing
costs. -/
lemma levenshtein_concat_concat_eq_ite (a b : Char) (as bs : List Char) :
    levenshtein (as ++ [a]) (bs ++ [b]) =
      if a = b then levenshtein as bs
      else 1 + min (min (levenshtein as bs) (levenshtein as (bs ++ [b])))
        (levenshtein (as ++ [a]) bs) := by
  split
  · rename_i h
    rw [h, levenshtein_concat_same]
  · rename_i h
    rw [levenshtein_concat_concat, if_neg h]
    omega

lemma nextCosts_costsBeyond (a : Char) (as passed bs : List Char) :
    nextCosts a bs (levenshtein (as ++ [a]) passed)
        (levenshtein as passed :: costsBeyond as passed bs) =
      costsBeyond (as ++ [a]) passed bs := by
  induction bs generalizing passed with
  | nil => rfl
  | cons b bs ih =>
    rw [costsBeyond, nextCosts, ← levenshtein_concat_concat_eq_ite, ih, costsBeyond]

lemma costsBeyond_nil (passed bs : List Char) :
    costsBeyond [] passed bs = List.range' (passed.length + 1) bs.length := by
  induction bs generalizing passed with
  | nil => rfl
  | cons b bs ih => simp [costsBeyond, ih, List.range'_succ]

lemma foldl_extendCosts (as bs done : List Char) :
    as.foldl (extendCosts bs) (levenshtein done [] :: costsBeyond done [] bs) =
      levenshtein (done ++ as) [] :: costsBeyond (done ++ as) [] bs := by
  induction as generalizing done with
  | nil => rw [List.append_nil]; rfl
  | cons a as ih =>
    have hstep : extendCosts bs (levenshtein done [] :: costsBeyond done [] bs) a =
        levenshtein (done ++ [a]) [] :: costsBeyond (done ++ [a]) [] bs := by
      have hfirst : levenshtein done [] + 1 = levenshtein (done ++ [a]) [] := by simp
      rw [extendCosts, List.headD_cons, hfirst, nextCosts_costsBeyond]
    rw [List.foldl_cons, hstep, ih, List.append_assoc, List.singleton_append]

/-- After a text its row is left. -/
theorem costs_eq (as bs : List Char) :
    costs as bs = levenshtein as [] :: costsBeyond as [] bs := by
  have hfirst : List.range (bs.length + 1) = levenshtein [] [] :: costsBeyond [] [] bs := by
    rw [costsBeyond_nil, levenshtein_nil_left, List.range_eq_range', List.range'_succ,
      List.length_nil]
  rw [costs, hfirst, foldl_extendCosts, List.nil_append]

lemma getLastD_costsBeyond (as passed bs : List Char) (d : Nat) :
    (levenshtein as passed :: costsBeyond as passed bs).getLastD d =
      levenshtein as (passed ++ bs) := by
  induction bs generalizing passed d with
  | nil => simp [costsBeyond]
  | cons b bs ih =>
    rw [costsBeyond, List.getLastD_cons, ih, List.append_assoc, List.singleton_append]

/-- The table ends with the least cost. -/
theorem distance_eq_levenshtein (as bs : List Char) : distance as bs = levenshtein as bs := by
  rw [distance, costs_eq, getLastD_costsBeyond, List.nil_append]

/-- The distance of two texts is the least cost between their small forms, and so the least number of
insertions, deletions and substitutions of single characters that turn the one into the other. -/
theorem editDistance_isLeast (a b : String) :
    editDistance a b = levenshtein (lowerText a.toList) (lowerText b.toList) ∧
      IsLeast {n | Edits n (lowerText a.toList) (lowerText b.toList)} (editDistance a b) := by
  have heq : editDistance a b = levenshtein (lowerText a.toList) (lowerText b.toList) :=
    distance_eq_levenshtein _ _
  rw [heq]
  exact ⟨rfl, isLeast_levenshtein _ _⟩

/-- The distance of texts is a pseudometric: texts are at no distance exactly if they have the same small
form, it does not matter which one is the first, and a way round is not shorter. It lies between the
difference of the lengths of the small forms and the greater one of them. -/
theorem editDistance_pseudometric (a b : String) :
    (editDistance a b = 0 ↔ Text.lowerCase a = Text.lowerCase b) ∧
    editDistance a b = editDistance b a ∧
    (∀ c, editDistance a c ≤ editDistance a b + editDistance b c) ∧
    max (Text.lowerCase a).length (Text.lowerCase b).length -
      min (Text.lowerCase a).length (Text.lowerCase b).length ≤ editDistance a b ∧
    editDistance a b ≤ max (Text.lowerCase a).length (Text.lowerCase b).length := by
  have heq (s t : String) : editDistance s t =
      levenshtein (Text.lowerCase s).toList (Text.lowerCase t).toList := by
    simp only [editDistance, distance_eq_levenshtein, Text.lowerCase, String.toList_ofList]
  simp only [heq, ← String.length_toList]
  refine ⟨levenshtein_eq_zero_iff.trans String.toList_inj, levenshtein_comm _ _,
    fun c => levenshtein_triangle _ _ _, ?_, levenshtein_le_max _ _⟩
  have hab := length_le_levenshtein (Text.lowerCase a).toList (Text.lowerCase b).toList
  have hba := length_le_levenshtein (Text.lowerCase b).toList (Text.lowerCase a).toList
  rw [levenshtein_comm] at hba
  omega

end Moderation.Filter
