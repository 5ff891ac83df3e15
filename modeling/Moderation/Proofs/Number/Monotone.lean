import Moderation.Proofs.Number.Nearest
import Moderation.Proofs.Number.Shortest

/-!
Rounding keeps the order. A greater fraction is not rounded to a smaller number, and so a quotient of
two natural numbers, each rounded before, is at most one if the first number is not the greater one.
-/
namespace Moderation.Binary64

/-- The value that a fraction is rounded to, were there no greatest number. -/
def rounded (num den : Nat) : ℚ :=
  roundEven (inUnits num den (unitOf num den)).1 (inUnits num den (unitOf num den)).2 *
    2 ^ unitOf num den

section Rounding
variable {num den num' den' n d n' d' : Nat}

/-- A fraction is rounded to an integer at a distance of at most one half, and to an even one if it lies
between two integers. -/
lemma roundEven_near (n : Nat) (hd : 0 < d) :
    2 * n ≤ 2 * (roundEven n d * d) + d ∧ 2 * (roundEven n d * d) ≤ 2 * n + d ∧
      (2 * n = 2 * (roundEven n d * d) + d ∨ 2 * (roundEven n d * d) = 2 * n + d →
        roundEven n d % 2 = 0) := by
  have hdiv := Nat.div_add_mod' n d
  have hmod := Nat.mod_lt n hd
  simp only [roundEven]
  generalize n / d = q at hdiv ⊢
  generalize n % d = r at hdiv hmod ⊢
  split
  · rw [Nat.succ_mul q d]
    omega
  · omega

lemma roundEven_mono (hd : 0 < d) (hd' : 0 < d') (h : (n / d : ℚ) ≤ n' / d') :
    roundEven n d ≤ roundEven n' d' := by
  have hd0 : (0 : ℚ) < d := by exact_mod_cast hd
  have hd0' : (0 : ℚ) < d' := by exact_mod_cast hd'
  obtain ⟨-, hup, htie⟩ := roundEven_near n hd
  obtain ⟨hlow', -, htie'⟩ := roundEven_near n' hd'
  generalize roundEven n d = r at *
  generalize roundEven n' d' = r' at *
  by_contra hlt
  have hlt : r' + 1 ≤ r := by omega
  -- otherwise both fractions lie in the middle between the two integers, and both integers are even
  have hx : (r - 1 / 2 : ℚ) ≤ n / d := by
    rw [le_div_iff₀ hd0]
    have : (2 * (r * d) : ℚ) ≤ 2 * n + d := by exact_mod_cast hup
    linarith
  have hy : (n' / d' : ℚ) ≤ r' + 1 / 2 := by
    rw [div_le_iff₀ hd0']
    have : (2 * n' : ℚ) ≤ 2 * (r' * d') + d' := by exact_mod_cast hlow'
    linarith
  have hr : (r' + 1 : ℚ) ≤ r := by exact_mod_cast hlt
  have hx' : (n / d : ℚ) = r - 1 / 2 := by linarith
  have hy' : (n' / d' : ℚ) = r' + 1 / 2 := by linarith
  have heven : r % 2 = 0 := by
    refine htie (.inr ?_)
    rw [div_eq_iff hd0.ne'] at hx'
    have : (2 * (r * d) : ℚ) = 2 * n + d := by linarith
    exact_mod_cast this
  have heven' : r' % 2 = 0 := by
    refine htie' (.inl ?_)
    rw [div_eq_iff hd0'.ne'] at hy'
    have : (2 * n' : ℚ) = 2 * (r' * d') + d' := by linarith
    exact_mod_cast this
  have hsucc : r = r' + 1 := by
    have : (r : ℚ) = r' + 1 := by linarith
    exact_mod_cast this
  omega

@[simp] lemma rounded_zero (den : Nat) : rounded 0 den = 0 := by
  have hunits (e : Int) : (inUnits 0 den e).1 = 0 := by
    unfold inUnits
    split <;> simp
  simp [rounded, roundEven, hunits]

lemma rounded_bounds (hn : 0 < num) (hd : 0 < den) :
    rounded num den ≤ 2 ^ (53 + unitOf num den) ∧
      ((2 : ℚ) ^ (52 + unitOf num den) ≤ rounded num den ∨ unitOf num den = -1074) := by
  obtain ⟨hlt, hfull⟩ := inUnits_unitOf_bounds hn hd rfl
  obtain ⟨hlow, hup⟩ := roundEven_bounds (inUnits num den (unitOf num den)).1
    (inUnits num den (unitOf num den)).2
  have hu : (0 : ℚ) < 2 ^ unitOf num den := by positivity
  simp only [rounded, zpow_add₀ (by norm_num : (2 : ℚ) ≠ 0)]
  refine ⟨mul_le_mul_of_nonneg_right ?_ hu.le, hfull.imp_left fun h =>
    mul_le_mul_of_nonneg_right ?_ hu.le⟩
  · exact_mod_cast hup.trans hlt
  · exact_mod_cast h.trans hlow

/-- A greater fraction is not rounded to a smaller number. -/
theorem rounded_mono (hd : 0 < den) (hd' : 0 < den') (h : (num / den : ℚ) ≤ num' / den') :
    rounded num den ≤ rounded num' den' := by
  have hd0 : (0 : ℚ) < den := by exact_mod_cast hd
  obtain rfl | hn := Nat.eq_zero_or_pos num
  · rw [rounded_zero, rounded]
    positivity
  have hn' : 0 < num' := by
    by_contra hz
    obtain rfl : num' = 0 := by omega
    have : (0 : ℚ) < num / den := div_pos (by exact_mod_cast hn) hd0
    simp only [Nat.cast_zero, zero_div] at h
    linarith
  have h2 : (1 : ℚ) < 2 := by norm_num
  obtain ⟨f, hf, hflow, -⟩ := exists_unit hn hd
  obtain ⟨f', hf', -, hfup'⟩ := exists_unit hn' hd'
  have hff : 52 + f < 53 + f' := (zpow_lt_zpow_iff_right₀ h2).1 ((hflow.trans h).trans_lt hfup')
  obtain heq | hlt : unitOf num den = unitOf num' den' ∨ unitOf num den + 1 ≤ unitOf num' den' := by
    omega
  · -- with the same units the integers are compared
    obtain ⟨hp, hv⟩ := inUnits_value num hd (unitOf num den)
    obtain ⟨hp', hv'⟩ := inUnits_value num' hd' (unitOf num den)
    rw [rounded, rounded, ← heq]
    refine mul_le_mul_of_nonneg_right ?_ (by positivity)
    refine Nat.cast_le.2 (roundEven_mono hp hp' ?_)
    rw [hv, hv']
    exact div_le_div_of_nonneg_right h (by positivity)
  · -- with greater units there is a power of two in between
    have hmin : -1074 ≤ unitOf num den := le_max_right _ _
    have hlow := (rounded_bounds hn' hd').2.resolve_right (by omega)
    refine (rounded_bounds hn hd).1.trans (le_trans ?_ hlow)
    exact zpow_le_zpow_right₀ h2.le (by omega)

/-- What is not too great is read as the number that it is rounded to. -/
theorem ofRatio_of_rounded_lt (negative : Bool) (num : Nat) (hd : 0 < den)
    (h : rounded num den < 2 ^ 1024) :
    ∃ m e, ofRatio negative num den = .finite negative m e ∧ (m * 2 ^ e : ℚ) = rounded num den := by
  obtain rfl | hn := Nat.eq_zero_or_pos num
  · exact ⟨0, -1074, rfl, by simp⟩
  have h2 : (1 : ℚ) < 2 := by norm_num
  by_cases hcarry : roundEven (inUnits num den (unitOf num den)).1
      (inUnits num den (unitOf num den)).2 = 2 ^ 53
  · -- a carry gives the least number with the next exponent
    have hvalue : rounded num den = 2 ^ (53 + unitOf num den) := by
      rw [rounded, hcarry, zpow_add₀ (by norm_num)]
      norm_num
    have hlt : unitOf num den + 1 ≤ 971 := by
      rw [hvalue, ← zpow_natCast] at h
      have := (zpow_lt_zpow_iff_right₀ h2).1 h
      omega
    refine ⟨2 ^ 52, unitOf num den + 1, ofRatio_of_carry hn rfl hlt hcarry, ?_⟩
    rw [hvalue, show 53 + unitOf num den = 52 + (unitOf num den + 1) by ring,
      zpow_add₀ (by norm_num) 52]
    norm_num
  · have hle : unitOf num den ≤ 971 := by
      by_contra hc
      have hlow := (rounded_bounds hn hd).2.resolve_right (by omega)
      rw [← zpow_natCast] at h
      have := (zpow_lt_zpow_iff_right₀ h2).1 (hlow.trans_lt h)
      omega
    exact ⟨_, _, ofRatio_of_round hn rfl hle rfl hcarry, rfl⟩

lemma rounded_one : rounded 1 1 = 1 := by
  have hunit : unitOf 1 1 = -52 := by decide +kernel
  have hround : roundEven (inUnits 1 1 (-52)).1 (inUnits 1 1 (-52)).2 = 2 ^ 52 := by decide +kernel
  rw [rounded, hunit, hround]
  norm_num

/-- Natural numbers of 64 bits are far from the greatest number. -/
lemma rounded_lt_of_fits (h : num < 2 ^ 64) : rounded num 1 < 2 ^ 1024 := by
  obtain rfl | hn := Nat.eq_zero_or_pos num
  · simp
  obtain ⟨f, hf, hflow, -⟩ := exists_unit hn Nat.one_pos
  have h2 : (1 : ℚ) < 2 := by norm_num
  have hlt : (2 : ℚ) ^ (52 + f) < 2 ^ (64 : Int) := by
    refine hflow.trans_lt ?_
    rw [Nat.cast_one, div_one]
    exact_mod_cast h
  have := (zpow_lt_zpow_iff_right₀ h2).1 hlt
  refine (rounded_bounds hn Nat.one_pos).1.trans_lt ?_
  rw [← zpow_natCast]
  exact zpow_lt_zpow_right₀ h2 (by omega)

lemma exists_quotient_eq_ofRatio {m m' : Nat} {e e' : Int} (hpos : (0 : ℚ) < m' * 2 ^ e') :
    ∃ a b, 0 < b ∧ (finite false m e).quotient (finite false m' e') = ofRatio false a b ∧
      (a / b : ℚ) = (m * 2 ^ e) / (m' * 2 ^ e') := by
  obtain ⟨hb, hx⟩ := magnitude_value false m e
  obtain ⟨hd, hy⟩ := magnitude_value false m' e'
  have hquot : (finite false m e).quotient (finite false m' e') =
      ofRatio false ((finite false m e).magnitude.1 * (finite false m' e').magnitude.2)
        ((finite false m e).magnitude.2 * (finite false m' e').magnitude.1) := rfl
  generalize (finite false m e).magnitude = x at hb hx hquot
  generalize (finite false m' e').magnitude = y at hd hy hquot
  have hc : 0 < y.1 := by
    refine Nat.pos_of_ne_zero fun hz => ?_
    rw [← hy, hz, Nat.cast_zero, zero_div] at hpos
    exact hpos.false
  refine ⟨_, _, Nat.mul_pos hb hc, hquot, ?_⟩
  rw [← hx, ← hy, div_div_div_eq]
  push_cast
  rfl

/-- A share of a positive number that has 64 bits is finite and at most one. -/
theorem quotient_ofNat_le_one (hpos : 0 < den) (hle : num ≤ den) (hfits : den < 2 ^ 64) :
    ∃ m e, (ofNat num).quotient (ofNat den) = .finite false m e ∧ (m * 2 ^ e : ℚ) ≤ 1 := by
  obtain ⟨m, e, hx, hxv⟩ := ofRatio_of_rounded_lt false num Nat.one_pos
    (rounded_lt_of_fits (hle.trans_lt hfits))
  obtain ⟨m', e', hy, hyv⟩ := ofRatio_of_rounded_lt false den Nat.one_pos (rounded_lt_of_fits hfits)
  have hmono : rounded num 1 ≤ rounded den 1 :=
    rounded_mono Nat.one_pos Nat.one_pos (by simpa using hle)
  have hone : 1 ≤ rounded den 1 := by
    have hden : (1 : ℚ) ≤ den := by exact_mod_cast hpos
    exact rounded_one ▸ rounded_mono Nat.one_pos Nat.one_pos (by simpa using hden)
  have hden : (0 : ℚ) < m' * 2 ^ e' := hyv ▸ one_pos.trans_le hone
  obtain ⟨a, b, hb, hquot, hvalue⟩ := @exists_quotient_eq_ofRatio m m' e e' hden
  have hshare : rounded a b ≤ 1 := by
    rw [← rounded_one]
    refine rounded_mono hb Nat.one_pos ?_
    rw [hvalue, Nat.cast_one, div_one, div_le_one hden, hxv, hyv]
    exact hmono
  obtain ⟨k, i, hk, hkv⟩ := ofRatio_of_rounded_lt false a hb
    (hshare.trans_lt (one_lt_pow₀ (by norm_num) (by norm_num)))
  refine ⟨k, i, ?_, hkv.trans_le hshare⟩
  rw [ofNat, ofNat, hx, hy, hquot, hk]

end Rounding

end Moderation.Binary64
