import Moderation.Proofs.Number.Monotone

/-!
How far a number is from the fraction that is rounded to it: half a unit at most, which is small against the
fraction.
-/
namespace Moderation.Binary64

variable {num den n d : Nat}

lemma abs_roundEven_sub_le (n : Nat) (hd : 0 < d) : |(roundEven n d : ℚ) - n / d| ≤ 1 / 2 := by
  have hd0 : (0 : ℚ) < d := by exact_mod_cast hd
  obtain ⟨hlow, hup, -⟩ := roundEven_near n hd
  have hlow : (2 * n : ℚ) ≤ 2 * (roundEven n d * d) + d := by exact_mod_cast hlow
  have hup : (2 * (roundEven n d * d) : ℚ) ≤ 2 * n + d := by exact_mod_cast hup
  have hn : (n / d * d : ℚ) = n := div_mul_cancel₀ _ hd0.ne'
  rw [abs_le]
  constructor <;> nlinarith

lemma abs_roundUp_sub_le (n : Nat) (hd : 0 < d) : |(roundUp n d : ℚ) - n / d| ≤ 1 / 2 := by
  have hd0 : (0 : ℚ) < d := by exact_mod_cast hd
  have hn : (n / d * d : ℚ) = n := div_mul_cancel₀ _ hd0.ne'
  have hdiv := Nat.div_add_mod (2 * n + d) (2 * d)
  have hmod := Nat.mod_lt (2 * n + d) (Nat.mul_pos two_pos hd)
  rw [← roundUp] at hdiv
  have hlow : (2 * n : ℚ) ≤ 2 * d * roundUp n d + d := by
    have : 2 * n ≤ 2 * d * roundUp n d + d := by omega
    exact_mod_cast this
  have hup : (2 * d * roundUp n d : ℚ) ≤ 2 * n + d := by
    have : 2 * d * roundUp n d ≤ 2 * n + d := by omega
    exact_mod_cast this
  rw [abs_le]
  constructor <;> nlinarith

lemma unitOf_le (hn : 0 < num) (hd : 0 < den) {k : Int} (hk : -1022 ≤ k)
    (h : (num / den : ℚ) ≤ 2 ^ k) : unitOf num den ≤ k - 52 := by
  obtain ⟨f, hf, hlow, -⟩ := exists_unit hn hd
  have hfk : 52 + f ≤ k := (zpow_le_zpow_iff_right₀ (by norm_num : (1 : ℚ) < 2)).1 (hlow.trans h)
  omega

/-- A fraction that does not exceed a power of two is rounded with an error of a unit in the 54th digit
behind that power. -/
theorem abs_rounded_sub_le (hd : 0 < den) {k : Int} (hk : -1022 ≤ k) (h : (num / den : ℚ) ≤ 2 ^ k) :
    |rounded num den - num / den| ≤ 2 ^ (k - 53) := by
  obtain rfl | hn := Nat.eq_zero_or_pos num
  · simpa using zpow_nonneg (by norm_num : (0 : ℚ) ≤ 2) (k - 53)
  generalize hu : unitOf num den = u
  have hle : u ≤ k - 52 := hu ▸ unitOf_le hn hd hk h
  obtain ⟨hp, hv⟩ := inUnits_value num hd u
  have hunit : (0 : ℚ) < 2 ^ u := by positivity
  have hnear := abs_roundEven_sub_le (inUnits num den u).1 hp
  calc |rounded num den - num / den|
      = |(roundEven (inUnits num den u).1 (inUnits num den u).2 : ℚ) -
          (inUnits num den u).1 / (inUnits num den u).2| * 2 ^ u := by
        rw [hv, ← abs_of_pos hunit, ← abs_mul, abs_of_pos hunit, sub_mul, rounded, hu,
          div_mul_cancel₀ _ hunit.ne']
    _ ≤ 1 / 2 * 2 ^ u := mul_le_mul_of_nonneg_right hnear hunit.le
    _ = 2 ^ (u - 1) := by
        rw [zpow_sub₀ (by norm_num)]
        ring
    _ ≤ 2 ^ (k - 53) := zpow_le_zpow_right₀ (by norm_num) (by omega)

/-- A number that is read off a fraction is a fraction with nearly the same value. -/
theorem abs_magnitude_ofRatio_sub_le (negative : Bool) (num : Nat) (hd : 0 < den) {k : Int}
    (hk : -1022 ≤ k) (hk' : k < 1023) (h : (num / den : ℚ) ≤ 2 ^ k) :
    0 < (ofRatio negative num den).magnitude.2 ∧
      |((ofRatio negative num den).magnitude.1 / (ofRatio negative num den).magnitude.2 : ℚ) -
        num / den| ≤ 2 ^ (k - 53) := by
  have hnear := abs_rounded_sub_le hd hk h
  have hfinite : rounded num den < 2 ^ 1024 := by
    have hsmall : (2 : ℚ) ^ (k - 53) ≤ 2 ^ k := zpow_le_zpow_right₀ (by norm_num) (by omega)
    calc rounded num den ≤ 2 ^ k + 2 ^ (k - 53) := by linarith [(abs_le.1 hnear).2]
      _ ≤ 2 ^ (k + 1) := by
        rw [zpow_add_one₀ (by norm_num)]
        linarith
      _ < 2 ^ 1024 := by
        rw [← zpow_natCast]
        exact zpow_lt_zpow_right₀ (by norm_num) (by omega)
  obtain ⟨m, e, hx, hv⟩ := ofRatio_of_rounded_lt negative num hd hfinite
  obtain ⟨hpos, hvalue⟩ := magnitude_value negative m e
  rw [hx, hvalue, hv]
  exact ⟨hpos, hnear⟩

end Moderation.Binary64
