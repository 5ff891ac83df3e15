import Moderation.Number.Decimal
import Moderation.Proofs.Number.Nearest

/-!
The shortest decimals of numbers. Seventeen digits are always enough for a number to be the nearest
one: the decimals with so many digits are closer together than the numbers of 53 binary digits.
-/
namespace Moderation.Binary64

variable {negative : Bool} {num den m : Nat} {e : Int}

/-- What a decimal stands for. -/
def Decimal.value (d : Decimal) : ℚ := d.digits * 10 ^ d.scale

/-! ### Decimals near a number -/

lemma length_toDigits_bounds {n : Nat} (hn : 0 < n) :
    10 ^ ((Nat.toDigits 10 n).length - 1) ≤ n ∧ n < 10 ^ (Nat.toDigits 10 n).length := by
  have hpos : 0 < (Nat.toDigits 10 n).length := Nat.length_toDigits_pos
  refine ⟨?_, (Nat.length_toDigits_le_iff (by decide) hpos).1 le_rfl⟩
  by_contra hc
  by_cases hone : (Nat.toDigits 10 n).length = 1
  · simp only [hone, Nat.sub_self, Nat.pow_zero] at hc
    omega
  · have := (Nat.length_toDigits_le_iff (by decide) (by omega)).2 (Nat.lt_of_not_le hc)
    omega

lemma Decimal.value_bounds {d : Decimal} (hd : 0 < d.digits) :
    (10 : ℚ) ^ ((Nat.toDigits 10 d.digits).length + d.scale - 1) ≤ d.value ∧
      d.value < 10 ^ ((Nat.toDigits 10 d.digits).length + d.scale) := by
  obtain ⟨hlow, hup⟩ := length_toDigits_bounds hd
  have hpos : 0 < (Nat.toDigits 10 d.digits).length := Nat.length_toDigits_pos
  generalize (Nat.toDigits 10 d.digits).length = l at *
  have h10 : (10 : ℚ) ≠ 0 := by norm_num
  constructor
  · rw [show (l + d.scale - 1 : Int) = ((l - 1 : Nat) : Int) + d.scale by omega, zpow_add₀ h10, value]
    exact mul_le_mul_of_nonneg_right (by exact_mod_cast hlow) (by positivity)
  · rw [zpow_add₀ h10, value]
    exact mul_lt_mul_of_pos_right (by exact_mod_cast hup) (by positivity)

lemma two_pow_between_ten_pow :
    (10 : ℚ) ^ (-400 : Int) < 2 ^ (-1075 : Int) ∧ (2 : ℚ) ^ (1025 : Int) < 10 ^ (400 : Int) := by
  constructor
  · have h : (2 : ℚ) ^ 1075 < 10 ^ 400 := by
      exact_mod_cast (by decide +kernel : 2 ^ 1075 < 10 ^ 400)
    rw [zpow_neg, zpow_neg]
    exact inv_strictAnti₀ (by positivity) h
  · have h : (2 : ℚ) ^ 1025 < 10 ^ 400 := by
      exact_mod_cast (by decide +kernel : 2 ^ 1025 < 10 ^ 400)
    exact h

/-- What is near a number is in the range of decimals that are read digit by digit. -/
lemma Near.bounds {q : ℚ} (hm : 0 < m) (hk : (finite negative m e).Kept) (h : Near q m e) :
    (10 : ℚ) ^ (-400 : Int) < q ∧ q < 10 ^ (400 : Int) := by
  obtain ⟨he, he', hm53, -⟩ := hk
  obtain ⟨hlow, hup⟩ := abs_lt.1 h.half
  have hu : (0 : ℚ) < 2 ^ e := by positivity
  constructor
  · have hmin : (2 : ℚ) ^ (-1075 : Int) ≤ 2 ^ (e - 1) := zpow_le_zpow_right₀ (by norm_num) (by omega)
    rw [zpow_sub_one₀ (by norm_num)] at hmin
    have hm1 : (2 : ℚ) ^ e ≤ m * 2 ^ e := le_mul_of_one_le_left hu.le (by exact_mod_cast hm)
    exact (two_pow_between_ten_pow.1.trans_le hmin).trans_le (by linarith)
  · have hmax : (2 : ℚ) ^ (54 + e) ≤ 2 ^ (1025 : Int) := zpow_le_zpow_right₀ (by norm_num) (by omega)
    rw [zpow_add₀ (by norm_num)] at hmax
    have hm1 : (m + 1 : ℚ) * 2 ^ e ≤ 2 ^ 53 * 2 ^ e :=
      mul_le_mul_of_nonneg_right (by exact_mod_cast hm53) hu.le
    refine lt_of_lt_of_le ?_ (hmax.trans two_pow_between_ten_pow.2.le)
    norm_num at hm1 ⊢
    linarith

/-- A decimal near a number is read as the number. -/
theorem ofDecimal_eq_of_near {d : Decimal} (hm : 0 < m) (hk : (finite negative m e).Kept)
    (h : Near d.value m e) : ofDecimal negative d.digits d.scale = .finite negative m e := by
  obtain ⟨hlow, hup⟩ := h.bounds hm hk
  have hd : 0 < d.digits := by
    by_contra hz
    have hv : d.value = 0 := by simp [Decimal.value, Nat.eq_zero_of_not_pos hz]
    rw [hv] at hlow
    exact hlow.not_gt (by positivity)
  obtain ⟨hvlow, hvup⟩ := d.value_bounds hd
  have h10 : (1 : ℚ) < 10 := by norm_num
  have hleast := (zpow_lt_zpow_iff_right₀ h10).1 (hlow.trans hvup)
  have hgreatest := (zpow_lt_zpow_iff_right₀ h10).1 (hvlow.trans_lt hup)
  have hplaces : ¬400 < ((Nat.toDigits 10 d.digits).length : Int) + d.scale ∧
      ¬((Nat.toDigits 10 d.digits).length : Int) + d.scale < -400 := by omega
  simp only [ofDecimal, if_neg hd.ne', if_neg hplaces.1, if_neg hplaces.2]
  obtain ⟨n, s⟩ := d
  split
  · rename_i hs
    change s < 0 at hs
    obtain ⟨k, rfl⟩ : ∃ k : Nat, s = -k := ⟨(-s).toNat, by omega⟩
    refine ofRatio_eq_of_near (Nat.pow_pos (by decide)) hm hk ?_
    simpa [Decimal.value, div_eq_mul_inv] using h
  · rename_i hs
    change ¬s < 0 at hs
    obtain ⟨k, rfl⟩ : ∃ k : Nat, s = k := ⟨s.toNat, by omega⟩
    refine ofRatio_eq_of_near Nat.one_pos hm hk ?_
    simpa [Decimal.value] using h

/-! ### Seventeen digits -/

lemma magnitude_value (negative : Bool) (m : Nat) (e : Int) :
    0 < (finite negative m e).magnitude.2 ∧
      ((finite negative m e).magnitude.1 : ℚ) / (finite negative m e).magnitude.2 = m * 2 ^ e := by
  unfold magnitude
  split
  · rename_i he
    cases he
    split
    · rename_i he
      obtain ⟨k, rfl⟩ : ∃ k : Nat, e = -k := ⟨(-e).toNat, by omega⟩
      exact ⟨Nat.pow_pos (by decide), by simp [div_eq_mul_inv]⟩
    · rename_i he
      obtain ⟨k, rfl⟩ : ∃ k : Nat, e = k := ⟨e.toNat, by omega⟩
      exact ⟨Nat.one_pos, by simp⟩
  · rename_i h
    exact absurd rfl (h _ _ _)

lemma takeWhile_range (p : Nat → Bool) (n : Nat) :
    (∀ s < ((List.range n).takeWhile p).length, p s = true) ∧
      (((List.range n).takeWhile p).length < n →
        p ((List.range n).takeWhile p).length = false) := by
  have hl : ((List.range n).takeWhile p).length = (List.range n).findIdx fun s => !p s := by
    rw [List.takeWhile_eq_take_findIdx_not, List.length_take, List.length_range]
    have hle : (List.range n).findIdx (fun s => !p s) ≤ (List.range n).length :=
      List.findIdx_le_length
    exact min_eq_left (by simpa using hle)
  rw [hl]
  refine ⟨fun s hs => ?_, fun hk => ?_⟩
  · simpa using List.not_of_lt_findIdx hs
  · have hk' : (List.range n).findIdx (fun s => !p s) < (List.range n).length := by simpa using hk
    simpa using List.findIdx_getElem (w := hk')

lemma leadingZeros_bounds (hlt : num < den) {n k : Nat} (h : den ≤ num * 10 ^ n)
    (hk : ((List.range n).takeWhile fun s => num * Nat.pow 10 (s + 1) < den).length = k) :
    num * 10 ^ k < den ∧ den ≤ num * 10 ^ (k + 1) := by
  obtain ⟨hbefore, hafter⟩ := takeWhile_range (fun s => num * Nat.pow 10 (s + 1) < den) n
  rw [hk] at hbefore hafter
  constructor
  · cases k with
    | zero => simpa using hlt
    | succ s => simpa using hbefore s (Nat.lt_succ_self s)
  · by_cases hkn : k < n
    · simpa using hafter hkn
    · exact h.trans (Nat.mul_le_mul_left num (Nat.pow_le_pow_right (by decide) (by omega)))

/-- The places before the point bound a fraction. -/
lemma placesBefore_bounds (hd : 0 < den) (h : den ≤ num * 10 ^ 400) :
    (10 : ℚ) ^ (placesBefore num den - 1) ≤ num / den ∧
      (num / den : ℚ) < 10 ^ placesBefore num den := by
  have hd0 : (0 : ℚ) < den := by exact_mod_cast hd
  unfold placesBefore
  split
  · rename_i hle
    obtain ⟨hlow, hup⟩ := length_toDigits_bounds (Nat.div_pos hle hd)
    have hpos : 0 < (Nat.toDigits 10 (num / den)).length := Nat.length_toDigits_pos
    generalize (Nat.toDigits 10 (num / den)).length = l at *
    rw [show (l - 1 : Int) = ((l - 1 : Nat) : Int) by omega, zpow_natCast, zpow_natCast]
    refine ⟨?_, lt_of_not_ge fun hc => ?_⟩
    · exact_mod_cast (le_div_iff_cast hd).1 hlow
    · exact hup.not_ge ((le_div_iff_cast hd).2 (by exact_mod_cast hc))
  · rename_i hlt
    generalize hk : ((List.range 400).takeWhile fun s => num * Nat.pow 10 (s + 1) < den).length = k
    obtain ⟨hbelow, habove⟩ := leadingZeros_bounds (Nat.lt_of_not_le hlt) h hk
    rw [show -(k : Int) - 1 = -((k + 1 : Nat) : Int) by omega, zpow_neg, zpow_neg, zpow_natCast,
      zpow_natCast, le_div_iff₀ hd0, div_lt_iff₀ hd0, inv_mul_le_iff₀ (by positivity),
      lt_inv_mul_iff₀ (by positivity), mul_comm, mul_comm _ (num : ℚ)]
    exact ⟨by exact_mod_cast habove, by exact_mod_cast hbelow⟩

lemma Decimal.value_trimmed (d : Decimal) : d.trimmed.value = d.value := by
  unfold Decimal.trimmed
  split
  · rename_i h
    have hd : (d.digits : ℚ) = (d.digits / 10 : Nat) * 10 := by
      exact_mod_cast (Nat.div_mul_cancel (Nat.dvd_of_mod_eq_zero h)).symm
    rw [value, value, hd, zpow_add_one₀ (by norm_num)]
    ring
  · rfl

lemma exists_neighbours (num : Nat) (hd : 0 < den) (scale : Int) :
    ∃ n d : Nat, 0 < d ∧ (n / d : ℚ) = num / den / 10 ^ scale ∧
      neighbours num den scale = (⟨n / d, scale⟩, Decimal.trimmed ⟨n / d + 1, scale⟩) := by
  by_cases hs : scale < 0
  · refine ⟨num * 10 ^ (-scale).toNat, den, hd, ?_, by simp [neighbours, hs]⟩
    obtain ⟨k, rfl⟩ : ∃ k : Nat, scale = -k := ⟨(-scale).toNat, by omega⟩
    simp [div_eq_mul_inv]
    ring
  · refine ⟨num, den * 10 ^ scale.toNat, Nat.mul_pos hd (by positivity), ?_, by simp [neighbours, hs]⟩
    obtain ⟨k, rfl⟩ : ∃ k : Nat, scale = k := ⟨scale.toNat, by omega⟩
    simp [div_div]

lemma neighbours_value (num : Nat) (hd : 0 < den) (scale : Int) :
    (neighbours num den scale).1.value ≤ num / den ∧
      (num / den : ℚ) < (neighbours num den scale).1.value + 10 ^ scale ∧
      (neighbours num den scale).2.value = (neighbours num den scale).1.value + 10 ^ scale := by
  obtain ⟨n, d, hd', hv, hn⟩ := exists_neighbours num hd scale
  have hs : (0 : ℚ) < 10 ^ scale := by positivity
  simp only [hn, Decimal.value_trimmed]
  simp only [Decimal.value]
  have hlow : ((n / d : Nat) : ℚ) ≤ n / d := (le_div_iff_cast hd').1 le_rfl
  have hup : (n / d : ℚ) < (n / d : Nat) + 1 := by
    refine lt_of_not_ge fun hc => (Nat.lt_succ_self (n / d)).not_ge ((le_div_iff_cast hd').2 ?_)
    exact_mod_cast hc
  rw [hv] at hlow hup
  refine ⟨(le_div_iff₀ hs).1 hlow, ?_, by push_cast; ring⟩
  have := (div_lt_iff₀ hs).1 hup
  linarith

lemma exists_neighbour (num : Nat) (hd : 0 < den) (scale : Int) :
    |(neighbours num den scale).1.value - num / den| ≤ (10 ^ scale / 2 : ℚ) ∨
      |(neighbours num den scale).2.value - num / den| ≤ (10 ^ scale / 2 : ℚ) := by
  obtain ⟨hlow, hup, hstep⟩ := neighbours_value num hd scale
  rw [hstep, abs_le, abs_le]
  by_cases h : (num / den : ℚ) ≤ (neighbours num den scale).1.value + 10 ^ scale / 2
  · exact .inl (by constructor <;> linarith)
  · exact .inr (by constructor <;> linarith)

/-- A decimal on the grid of seventeen digits that is nearest to a number is near it. -/
lemma near_of_seventeen_digits {q : ℚ} {t : Int} (hk : (finite negative m e).Kept)
    (ht : (10 : ℚ) ^ (t - 1) ≤ m * 2 ^ e) (h : |q - m * 2 ^ e| ≤ (10 ^ (t - 17) / 2 : ℚ)) :
    Near q m e := by
  obtain ⟨-, -, hm53, -⟩ := hk
  have hu : (0 : ℚ) < 2 ^ e := by positivity
  have hten : (10 : ℚ) ^ (t - 1) = 10 ^ 16 * 10 ^ (t - 17) := by
    rw [← zpow_natCast, ← zpow_add₀ (by norm_num)]
    congr 1
    omega
  rw [hten] at ht
  constructor
  · have hm : (m : ℚ) * 2 ^ e ≤ 2 ^ 53 * 2 ^ e :=
      mul_le_mul_of_nonneg_right (by exact_mod_cast hm53.le) hu.le
    norm_num at hm ht
    linarith
  · rintro rfl
    obtain ⟨hlow, -⟩ := abs_le.1 h
    norm_num at hlow ht ⊢
    linarith

lemma ofDecimal_of_readsBack {x : Binary64} {scale : Int} {d : Decimal}
    (h : readsBack x num den scale = some d) : ofDecimal false d.digits d.scale = x := by
  simp only [readsBack] at h
  split at h
  · rename_i hbelow habove
    obtain rfl := Option.some.inj h
    split
    · exact of_decide_eq_true hbelow
    · exact of_decide_eq_true habove
  · rename_i hbelow _
    obtain rfl := Option.some.inj h
    exact of_decide_eq_true hbelow
  · rename_i _ habove
    obtain rfl := Option.some.inj h
    exact of_decide_eq_true habove
  · cases h

lemma readsBack_ne_none {x : Binary64} {scale : Int}
    (h : ofDecimal false (neighbours num den scale).1.digits (neighbours num den scale).1.scale = x ∨
      ofDecimal false (neighbours num den scale).2.digits (neighbours num den scale).2.scale = x) :
    readsBack x num den scale ≠ none := by
  simp only [readsBack]
  split
  · simp
  · simp
  · simp
  · rename_i hbelow habove
    exact absurd h (not_or.2 ⟨of_decide_eq_false hbelow, of_decide_eq_false habove⟩)

/-- Some decimal reads back, and so the shortest one does. -/
theorem ofDecimal_shortest (hm : 0 < m) (hk : (finite false m e).Kept) :
    ofDecimal false (shortest (finite false m e)).digits (shortest (finite false m e)).scale =
      finite false m e := by
  obtain ⟨hd, hv⟩ := magnitude_value false m e
  simp only [shortest]
  generalize (finite false m e).magnitude.1 = num at *
  generalize (finite false m e).magnitude.2 = den at *
  have hself : Near (num / den) m e := by
    rw [hv]
    exact ⟨by rw [sub_self, abs_zero]; positivity, fun _ => by rw [sub_self]; positivity⟩
  have hbig : den ≤ num * 10 ^ 400 := by
    have hlow := (hself.bounds hm hk).1
    rw [zpow_neg, lt_div_iff₀ (by exact_mod_cast hd), inv_mul_lt_iff₀ (by positivity)] at hlow
    rw [Nat.mul_comm]
    exact_mod_cast hlow.le
  have ht := (placesBefore_bounds hd hbig).1
  generalize placesBefore num den = t at ht ⊢
  have hhit {d : Decimal} (h : |d.value - num / den| ≤ (10 ^ (t - 17) / 2 : ℚ)) :
      ofDecimal false d.digits d.scale = finite false m e := by
    rw [hv] at h ht
    exact ofDecimal_eq_of_near hm hk (near_of_seventeen_digits hk ht h)
  have hread : readsBack (finite false m e) num den (t - 17) ≠ none :=
    readsBack_ne_none ((exists_neighbour num hd (t - 17)).imp hhit hhit)
  cases hf : (List.range 17).findSome? fun n : Nat =>
      readsBack (finite false m e) num den (t - ((n : Int) + 1)) with
  | none => exact absurd (List.findSome?_eq_none_iff.1 hf 16 (by decide)) hread
  | some d =>
    obtain ⟨n, -, hn⟩ := List.exists_of_findSome?_eq_some hf
    exact ofDecimal_of_readsBack hn

end Moderation.Binary64
