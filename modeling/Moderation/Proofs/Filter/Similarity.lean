import Moderation.Proofs.Filter.CostTable
import Moderation.Proofs.Number.Accuracy
import Moderation.Proofs.Unicode.Lower

/-!
The similarity of two texts as a percentage. The distance is one of small forms, and a small form may be
longer than its text, but what of the distance exceeds the longer text does not count.
-/
namespace Moderation.Filter
open Unicode

variable {part whole : Nat}

/-! ### Percentages -/

/-- A percentage is the integer nearest to the share in percent. It may be the next one only if the share
is so near to the middle between the two that numbers of 53 digits do not tell its side. -/
theorem abs_percentage_sub_le (hpos : 0 < whole) (hle : part ≤ whole) :
    |(percentage part whole : ℚ) - 100 * (part / whole)| ≤ 1 / 2 + 2 ^ (-45 : Int) := by
  have hwhole : (0 : ℚ) < whole := by exact_mod_cast hpos
  have hshare : (part / whole : ℚ) ≤ 1 := (div_le_one hwhole).2 (by exact_mod_cast hle)
  -- the share, its hundredfold and the percentage are rounded one after the other
  obtain ⟨hx, hfirst⟩ := Binary64.abs_magnitude_ofRatio_sub_le false part hpos (k := 0)
    (by norm_num) (by norm_num) (by simpa using hshare)
  rw [percentage]
  generalize (Binary64.ofRatio false part whole).magnitude = x at hx hfirst ⊢
  have hhundred : ((100 * x.1 : Nat) / x.2 : ℚ) = 100 * (x.1 / x.2) := by
    push_cast
    rw [mul_div_assoc]
  rw [abs_le] at hfirst
  norm_num at hfirst
  obtain ⟨hy, hsecond⟩ := Binary64.abs_magnitude_ofRatio_sub_le false (100 * x.1) hx (k := 7)
    (by norm_num) (by norm_num) (by rw [hhundred]; norm_num; linarith)
  rw [hhundred, abs_le] at hsecond
  norm_num at hsecond
  simp only [nearestInteger]
  generalize (Binary64.ofRatio false (100 * x.1) x.2).magnitude = y at hy hsecond ⊢
  have hthird := abs_le.1 (Binary64.abs_roundUp_sub_le y.1 hy)
  rw [abs_le]
  norm_num
  constructor <;> linarith

lemma percentage_eq {n : Nat} (hpos : 0 < whole) (hle : part ≤ whole) (h : 100 * part = n * whole) :
    percentage part whole = n := by
  have hwhole : (0 : ℚ) < whole := by exact_mod_cast hpos
  have hshare : 100 * (part / whole : ℚ) = n := by
    rw [← mul_div_assoc, div_eq_iff hwhole.ne']
    exact_mod_cast h
  have hnear := abs_percentage_sub_le hpos hle
  have hone : |((percentage part whole : Int) - n : Int)| < 1 := by
    have : |((percentage part whole : ℚ) - n)| < 1 := by
      rw [← hshare]
      refine hnear.trans_lt ?_
      norm_num
    exact_mod_cast this
  rw [Int.abs_lt_one_iff] at hone
  omega

lemma percentage_self (hpos : 0 < whole) : percentage whole whole = 100 :=
  percentage_eq hpos (Nat.le_refl _) rfl

lemma percentage_le (hpos : 0 < whole) (hle : part ≤ whole) : percentage part whole ≤ 100 := by
  have hwhole : (0 : ℚ) < whole := by exact_mod_cast hpos
  have hshare : (part / whole : ℚ) ≤ 1 := (div_le_one hwhole).2 (by exact_mod_cast hle)
  have hnear := (abs_le.1 (abs_percentage_sub_le hpos hle)).2
  norm_num at hnear
  have hlt : (percentage part whole : ℚ) < 101 := by linarith
  exact Nat.le_of_lt_succ (by exact_mod_cast hlt)

/-! ### Similarity -/

lemma editDistance_comm (a b : String) : editDistance a b = editDistance b a := by
  rw [editDistance, editDistance, distance_eq_levenshtein, distance_eq_levenshtein, levenshtein_comm]

lemma similarity_comm (a b : String) : similarity a b = similarity b a := by
  rw [similarity, similarity, editDistance_comm, max_comm]

lemma similarity_le (a b : String) : similarity a b ≤ 100 := by
  simp only [similarity]
  split
  · exact le_rfl
  · rename_i hlongest
    exact percentage_le (Nat.pos_of_ne_zero hlongest) (Nat.sub_le _ _)

/-- Nothing has to be done to turn a text into itself. -/
@[simp] theorem distance_self (as : List Char) : distance as as = 0 := by
  rw [distance_eq_levenshtein, levenshtein_self]

lemma similarity_of_lowerCase_eq {a b : String} (h : Text.lowerCase a = Text.lowerCase b) :
    similarity a b = 100 := by
  have hsmall : lowerText a.toList = lowerText b.toList := String.ofList_inj.1 h
  have hdistance : editDistance a b = 0 := by rw [editDistance, hsmall, distance_self]
  simp only [similarity, hdistance, Nat.zero_min, Nat.sub_zero]
  split
  · rfl
  · rename_i hlongest
    exact percentage_self (Nat.pos_of_ne_zero hlongest)

/-- Every text is wholly like itself, the empty one too. -/
@[simp] theorem similarity_self (a : String) : similarity a a = 100 := similarity_of_lowerCase_eq rfl

/-- A text has nothing in common with the empty one. Its small form is not shorter than it is. -/
lemma similarity_empty_left {b : String} (hb : b ≠ "") : similarity "" b = 0 := by
  have hlength : 0 < b.toList.length := by
    refine List.length_pos_iff.2 fun h => hb ?_
    rwa [String.toList_eq_nil_iff] at h
  have hdistance : editDistance "" b = (lowerText b.toList).length := by simp [editDistance]
  have hlong := length_le_length_lowerText b.toList
  have hempty : "".toList.length = 0 := rfl
  simp only [similarity, hdistance, hempty, Nat.zero_max, if_neg hlength.ne', Nat.min_eq_right hlong,
    Nat.sub_self]
  exact percentage_eq hlength (Nat.zero_le _) (by simp)

/-- The similarity of two texts does not depend on which one is the first and is at most a hundred percent. It
is the share of the longer text that remains when the distance is taken away, as far as it does not exceed
that text, up to the error of numbers of 53 digits. Texts with the same small form are wholly alike, two
empty ones too, and an empty text has no likeness to one that is not. -/
theorem similarity_symmetric_bounded (a b : String) :
    (let longest := max a.toList.length b.toList.length
      ∃ part, part + min (editDistance a b) longest = longest ∧
        similarity a b = (if longest = 0 then 100 else percentage part longest) ∧
        (longest ≠ 0 →
          |(similarity a b : ℚ) - 100 * (part / longest)| ≤ 1 / 2 + 2 ^ (-45 : Int))) ∧
    similarity a b = similarity b a ∧
    similarity a b ≤ 100 ∧
    (Text.lowerCase a = Text.lowerCase b → similarity a b = 100) ∧
    similarity "" "" = 100 ∧
    (¬(a = "" ↔ b = "") → similarity a b = 0) := by
  refine ⟨?share, similarity_comm a b, similarity_le a b, similarity_of_lowerCase_eq,
    similarity_self "", ?empty⟩
  case share =>
    refine ⟨_, Nat.sub_add_cancel (Nat.min_le_right _ _), rfl, fun hlongest => ?_⟩
    rw [similarity, if_neg hlongest]
    exact abs_percentage_sub_le (Nat.pos_of_ne_zero hlongest) (Nat.sub_le _ _)
  case empty =>
    intro h
    by_cases ha : a = ""
    · obtain rfl := ha
      exact similarity_empty_left fun hb => h (by simp [hb])
    · have hb : b = "" := by
        by_contra hb
        exact h (by simp [ha, hb])
      rw [hb, similarity_comm]
      exact similarity_empty_left ha

example : editDistance "İİ" "" = 4 ∧ similarity "İİ" "" = 0 := by decide +kernel

end Moderation.Filter
