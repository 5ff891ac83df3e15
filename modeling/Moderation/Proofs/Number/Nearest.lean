import Mathlib.Algebra.Order.Field.Power
import Mathlib.Algebra.Order.Ring.Abs
import Mathlib.Data.Rat.Cast.Order
import Mathlib.Tactic.Lemma
import Mathlib.Tactic.Linarith
import Mathlib.Tactic.NormNum
import Mathlib.Tactic.Positivity
import Mathlib.Tactic.Ring
import Moderation.Number.Binary64

/-!
Nearest numbers. A quotient that is closer to a number than half of its last place is read as that
number; below a power of two the places are half as wide.
-/
namespace Moderation.Binary64

/-- The form in which numbers are kept: all 53 digits are used, unless the exponent is the least. -/
def Kept : Binary64 → Prop
  | .finite _ m e => -1074 ≤ e ∧ e ≤ 971 ∧ m < 2 ^ 53 ∧ (2 ^ 52 ≤ m ∨ e = -1074)
  | _ => True

/-! ### Fractions -/

section Fractions
variable {num den : Nat}

lemma le_div_iff_cast {a n d : Nat} (hd : 0 < d) : a ≤ n / d ↔ (a : ℚ) ≤ n / d := by
  rw [Nat.le_div_iff_mul_le hd, le_div_iff₀ (by exact_mod_cast hd)]
  exact_mod_cast Iff.rfl

lemma inUnits_value (num : Nat) (hd : 0 < den) (e : Int) :
    0 < (inUnits num den e).2 ∧
      ((inUnits num den e).1 : ℚ) / (inUnits num den e).2 = num / den / 2 ^ e := by
  unfold inUnits
  split
  · obtain ⟨k, rfl⟩ : ∃ k : Nat, e = -k := ⟨(-e).toNat, by omega⟩
    refine ⟨hd, ?_⟩
    simp [div_eq_mul_inv]
    ring
  · obtain ⟨k, rfl⟩ : ∃ k : Nat, e = k := ⟨e.toNat, by omega⟩
    refine ⟨Nat.mul_pos hd (Nat.pow_pos (by decide)), ?_⟩
    simp [div_eq_mul_inv]
    ring

lemma div_bounds_of_log2 (hn : 0 < num) (hd : 0 < den) :
    (2 : ℚ) ^ ((num.log2 : Int) - den.log2 - 1) ≤ num / den ∧
      (num / den : ℚ) < 2 ^ ((num.log2 : Int) - den.log2 + 1) := by
  have hn1 : (2 : ℚ) ^ num.log2 ≤ num := by exact_mod_cast Nat.log2_self_le hn.ne'
  have hn2 : (num : ℚ) < 2 ^ (num.log2 + 1) := by exact_mod_cast Nat.lt_log2_self
  have hd1 : (2 : ℚ) ^ den.log2 ≤ den := by exact_mod_cast Nat.log2_self_le hd.ne'
  have hd2 : (den : ℚ) < 2 ^ (den.log2 + 1) := by exact_mod_cast Nat.lt_log2_self
  have hd0 : (0 : ℚ) < den := by exact_mod_cast hd
  have h2 : (2 : ℚ) ≠ 0 := by norm_num
  constructor
  · rw [le_div_iff₀ hd0, sub_sub, zpow_sub₀ h2, div_mul_eq_mul_div, div_le_iff₀ (by positivity)]
    exact_mod_cast mul_le_mul hn1 hd2.le hd0.le (Nat.cast_nonneg _)
  · rw [div_lt_iff₀ hd0, sub_add_eq_add_sub, zpow_sub₀ h2, div_mul_eq_mul_div,
      lt_div_iff₀ (by positivity)]
    exact_mod_cast mul_lt_mul hn2 hd1 (by positivity) (by positivity)

/-- The exponent of a fraction is the one at which 53 digits stand before the point, unless that is
below the least. -/
lemma exists_unit (hn : 0 < num) (hd : 0 < den) :
    ∃ f, unitOf num den = max f (-1074) ∧ (2 : ℚ) ^ (52 + f) ≤ num / den ∧
      (num / den : ℚ) < 2 ^ (53 + f) := by
  obtain ⟨hlow, hup⟩ := div_bounds_of_log2 hn hd
  generalize hg : (num.log2 : Int) - den.log2 - 53 = f
  obtain ⟨hdf, hf⟩ := inUnits_value num hd f
  have hcarry : Nat.pow 2 53 ≤ (inUnits num den f).1 / (inUnits num den f).2 ↔
      (2 : ℚ) ^ (53 + f) ≤ num / den := by
    rw [le_div_iff_cast hdf, hf, le_div_iff₀ (by positivity), zpow_add₀ (by norm_num)]
    norm_num
  by_cases h : Nat.pow 2 53 ≤ (inUnits num den f).1 / (inUnits num den f).2
  · refine ⟨f + 1, by simp only [unitOf, hg, if_pos h], ?_, ?_⟩
    · rw [show 52 + (f + 1) = 53 + f by omega]
      exact hcarry.1 h
    · rwa [show 53 + (f + 1) = (num.log2 : Int) - den.log2 + 1 by omega]
  · refine ⟨f, by simp only [unitOf, hg, if_neg h], ?_, not_le.1 fun hc => h (hcarry.2 hc)⟩
    rwa [show 52 + f = (num.log2 : Int) - den.log2 - 1 by omega]

lemma unitOf_eq (hn : 0 < num) (hd : 0 < den) {e : Int} (he : -1074 ≤ e)
    (hlt : (num / den : ℚ) < 2 ^ (53 + e)) (hle : (2 : ℚ) ^ (52 + e) ≤ num / den ∨ e = -1074) :
    unitOf num den = e := by
  have h2 : (1 : ℚ) < 2 := by norm_num
  obtain ⟨f, hf, hflow, hfup⟩ := exists_unit hn hd
  have hfe := (zpow_lt_zpow_iff_right₀ h2).1 (hflow.trans_lt hlt)
  obtain hle | rfl := hle
  · have hef := (zpow_lt_zpow_iff_right₀ h2).1 (hle.trans_lt hfup)
    omega
  · omega

/-- What is rounded has at most 53 digits before the point, and all 53 unless the exponent is the
least. -/
lemma inUnits_unitOf_bounds (hn : 0 < num) (hd : 0 < den) {e : Int} (he : unitOf num den = e) :
    (inUnits num den e).1 / (inUnits num den e).2 < 2 ^ 53 ∧
      (2 ^ 52 ≤ (inUnits num den e).1 / (inUnits num den e).2 ∨ e = -1074) := by
  obtain ⟨f, hf, hlow, hup⟩ := exists_unit hn hd
  obtain ⟨hd', hv⟩ := inUnits_value num hd e
  have hle {k : Nat} : 2 ^ k ≤ (inUnits num den e).1 / (inUnits num den e).2 ↔
      (2 : ℚ) ^ (k + e) ≤ num / den := by
    rw [le_div_iff_cast hd', hv, le_div_iff₀ (by positivity), zpow_add₀ (by norm_num)]
    norm_num
  constructor
  · refine Nat.lt_of_not_le fun hc => (hle.1 hc).not_gt (hup.trans_le ?_)
    exact zpow_le_zpow_right₀ (by norm_num) (by omega)
  · by_cases hfe : -1074 ≤ f
    · refine .inl (hle.2 ?_)
      rwa [← he, hf, max_eq_left hfe]
    · exact .inr (by omega)

lemma roundEven_eq {n d m : Nat} (hd : 0 < d) (hlow : 2 * (m * d) < 2 * n + d)
    (hup : 2 * n < 2 * (m * d) + d) : roundEven n d = m := by
  have hdiv := Nat.div_add_mod' n d
  have hmod := Nat.mod_lt n hd
  simp only [roundEven]
  generalize n / d = q at hdiv ⊢
  generalize n % d = r at hdiv hmod ⊢
  -- the integers at a distance of less than one are the quotient and the one after it
  have hq : q ≤ m := by
    by_contra hc
    have := Nat.mul_le_mul_right d (Nat.lt_of_not_le hc)
    rw [Nat.succ_mul] at this
    omega
  have hq' : m ≤ q + 1 := by
    by_contra hc
    have := Nat.mul_le_mul_right d (Nat.lt_of_not_le hc)
    rw [Nat.succ_mul, Nat.succ_mul] at this
    omega
  obtain rfl | rfl : m = q ∨ m = q + 1 := by omega
  · rw [if_neg (by omega)]
  · rw [Nat.succ_mul q d] at hlow hup
    rw [if_pos (by omega)]

lemma roundEven_eq_of_abs_lt {n d m : Nat} (hd : 0 < d) (h : |(n / d : ℚ) - m| < 1 / 2) :
    roundEven n d = m := by
  have hd0 : (0 : ℚ) < d := by exact_mod_cast hd
  have hn : (n / d : ℚ) * d = n := div_mul_cancel₀ _ hd0.ne'
  obtain ⟨h1, h2⟩ := abs_lt.1 h
  have hlow : (2 * (m * d) : ℚ) < 2 * n + d := by
    have := mul_lt_mul_of_pos_right h1 hd0
    linarith
  have hup : (2 * n : ℚ) < 2 * (m * d) + d := by
    have := mul_lt_mul_of_pos_right h2 hd0
    linarith
  exact roundEven_eq hd (by exact_mod_cast hlow) (by exact_mod_cast hup)

end Fractions

/-! ### Fractions near a number -/

/-- A value is closer to `m * 2 ^ e` than half of a unit, and closer than a quarter below the least
`m` of 53 digits, where the units of the numbers below are half as wide. -/
structure Near (q : ℚ) (m : Nat) (e : Int) : Prop where
  half : |q - m * 2 ^ e| < 2 ^ e / 2
  quarter : m = 2 ^ 52 → m * 2 ^ e - q < 2 ^ e / 4

section Near
variable {num den m : Nat} {e : Int} {negative : Bool}

lemma roundEven_inUnits_eq (hd : 0 < den) (h : |(num / den : ℚ) - m * 2 ^ e| < 2 ^ e / 2) :
    roundEven (inUnits num den e).1 (inUnits num den e).2 = m := by
  obtain ⟨hd', hv⟩ := inUnits_value num hd e
  have hu : (0 : ℚ) < 2 ^ e := by positivity
  refine roundEven_eq_of_abs_lt hd' ?_
  rw [hv, div_sub' hu.ne', abs_div, abs_of_pos hu, div_lt_iff₀ hu, mul_comm (2 ^ e : ℚ)]
  linarith

lemma ofRatio_of_round (hnum : 0 < num) (he : unitOf num den = e) (he' : e ≤ 971)
    (hm : roundEven (inUnits num den e).1 (inUnits num den e).2 = m) (hne : m ≠ 2 ^ 53) :
    ofRatio negative num den = .finite negative m e := by
  have hne' : m ≠ Nat.pow 2 53 := hne
  simp only [ofRatio, if_neg hnum.ne', he, hm, if_neg hne', if_neg (not_lt.2 he')]

lemma ofRatio_of_carry (hnum : 0 < num) (he : unitOf num den = e) (he' : e + 1 ≤ 971)
    (hm : roundEven (inUnits num den e).1 (inUnits num den e).2 = 2 ^ 53) :
    ofRatio negative num den = .finite negative (2 ^ 52) (e + 1) := by
  have hm' : roundEven (inUnits num den e).1 (inUnits num den e).2 = Nat.pow 2 53 := hm
  simp only [ofRatio, if_neg hnum.ne', he, hm', if_true, if_neg (not_lt.2 he')]
  rfl

/-- A fraction below the least number with an exponent, closer than a quarter of its units, is rounded
up to it. -/
lemma ofRatio_eq_of_below (hnum : 0 < num) (hd : 0 < den) (he : -1074 < e) (he' : e ≤ 971)
    (hbelow : (num / den : ℚ) < 2 ^ 52 * 2 ^ e)
    (hquarter : (2 ^ 52 * 2 ^ e - num / den : ℚ) < 2 ^ e / 4) :
    ofRatio negative num den = .finite negative (2 ^ 52) e := by
  have hu : (0 : ℚ) < 2 ^ e := by positivity
  have h52 : (2 : ℚ) ^ (52 + e) = 2 ^ 52 * 2 ^ e := zpow_add₀ (by norm_num) _ _
  have hhalf : (2 : ℚ) ^ (e - 1) = 2 ^ e / 2 := by rw [zpow_sub_one₀ (by norm_num), div_eq_mul_inv]
  have hunit : unitOf num den = e - 1 := by
    refine unitOf_eq hnum hd (by omega) ?_ (.inl ?_)
    · rwa [show 53 + (e - 1) = 52 + e by omega, h52]
    · rw [zpow_add₀ (by norm_num), hhalf]
      norm_num at hquarter ⊢
      linarith
  have hround : roundEven (inUnits num den (e - 1)).1 (inUnits num den (e - 1)).2 = 2 ^ 53 := by
    refine roundEven_inUnits_eq hd ?_
    rw [hhalf, abs_lt]
    push_cast
    constructor <;> norm_num at hquarter hbelow ⊢ <;> linarith
  have hcarry : ofRatio negative num den = .finite negative (2 ^ 52) (e - 1 + 1) :=
    ofRatio_of_carry hnum hunit (by omega) hround
  rwa [sub_add_cancel] at hcarry

/-- What is near a number is read as the number. -/
theorem ofRatio_eq_of_near (hd : 0 < den) (hm : 0 < m) (hk : (finite negative m e).Kept)
    (h : Near (num / den) m e) : ofRatio negative num den = .finite negative m e := by
  obtain ⟨he, he', hm53, hfull⟩ := hk
  have hu : (0 : ℚ) < 2 ^ e := by positivity
  obtain ⟨hlow, hup⟩ := abs_lt.1 h.half
  have hm1 : (2 : ℚ) ^ e ≤ m * 2 ^ e := le_mul_of_one_le_left hu.le (by exact_mod_cast hm)
  have hnum : 0 < num := by
    by_contra hz
    obtain rfl : num = 0 := by omega
    simp only [Nat.cast_zero, zero_div] at hlow
    linarith
  by_cases hunit : (2 : ℚ) ^ (52 + e) ≤ num / den ∨ e = -1074
  · have hlt : (num / den : ℚ) < 2 ^ (53 + e) := by
      have hmtop : (m * 2 ^ e + 2 ^ e : ℚ) ≤ 2 ^ (53 + e) := by
        rw [zpow_add₀ (by norm_num), ← add_one_mul]
        exact mul_le_mul_of_nonneg_right (by exact_mod_cast hm53) hu.le
      linarith
    exact ofRatio_of_round hnum (unitOf_eq hnum hd he hlt hunit) he'
      (roundEven_inUnits_eq hd h.half) hm53.ne
  · obtain ⟨hbelow, hne⟩ := not_or.1 hunit
    rw [zpow_add₀ (by norm_num), not_le] at hbelow
    -- only the least number of 53 digits is near a fraction with a smaller exponent
    have hm52 : m = 2 ^ 52 := by
      refine le_antisymm (Nat.lt_succ_iff.1 ?_) (hfull.resolve_right hne)
      have : (m : ℚ) * 2 ^ e < (2 ^ 52 + 1) * 2 ^ e := by
        norm_num at hbelow ⊢
        linarith
      exact_mod_cast lt_of_mul_lt_mul_right this hu.le
    have hquarter := h.quarter hm52
    subst hm52
    push_cast at hquarter
    exact ofRatio_eq_of_below hnum hd (by omega) he' (by exact_mod_cast hbelow) hquarter

end Near

lemma roundEven_bounds (n d : Nat) : n / d ≤ roundEven n d ∧ roundEven n d ≤ n / d + 1 := by
  simp only [roundEven]
  split <;> omega

/-- What is read is in the form in which numbers are kept. -/
theorem kept_ofRatio (negative : Bool) (num : Nat) {den : Nat} (hd : 0 < den) :
    (ofRatio negative num den).Kept := by
  obtain rfl | hn := Nat.eq_zero_or_pos num
  · simp [zero, Kept]
  have hmin : -1074 ≤ unitOf num den := le_max_right _ _
  generalize he : unitOf num den = e at hmin
  obtain ⟨hlt, hfull⟩ := inUnits_unitOf_bounds hn hd he
  obtain ⟨hlow, hup⟩ := roundEven_bounds (inUnits num den e).1 (inUnits num den e).2
  generalize hm : roundEven (inUnits num den e).1 (inUnits num den e).2 = m at hlow hup
  simp only [ofRatio, if_neg hn.ne', he, hm]
  by_cases hcarry : m = Nat.pow 2 53
  · simp only [if_pos hcarry]
    split
    · trivial
    · exact ⟨by omega, by omega, by decide, .inl le_rfl⟩
  · have hne : m ≠ 2 ^ 53 := hcarry
    simp only [if_neg hcarry]
    split
    · trivial
    · exact ⟨hmin, by omega, by omega, hfull.imp_left fun h => h.trans hlow⟩

end Moderation.Binary64
