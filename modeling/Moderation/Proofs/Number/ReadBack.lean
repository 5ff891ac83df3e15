import Moderation.Proofs.Number.Shortest

/-!
Numbers as texts. What a number is written as reads back as the number, and whatever is read is in the
form in which numbers are kept; so numbers that were read are told apart by how they are written.
-/
namespace Moderation.Binary64
open Moderation.Unicode

variable {negative : Bool} {num den m : Nat} {e : Int} {cs as bs : List Char} {c : Char}

/-! ### Digits -/

lemma isAsciiDigit_of_isDigit (h : c.isDigit = true) : isAsciiDigit c = true := by
  simpa [isAsciiDigit, Char.isDigit, Char.le_def] using h

lemma digitsValue_eq (cs : List Char) : digitsValue cs = Nat.ofDigitChars 10 cs 0 :=
  Nat.ofDigitChars_eq_foldl.symm

lemma takeWhile_digits (ha : ∀ c ∈ as, isAsciiDigit c = true) (bs : List Char)
    (hb : bs.head?.all (!isAsciiDigit ·)) :
    (as ++ bs).takeWhile isAsciiDigit = as ∧ (as ++ bs).dropWhile isAsciiDigit = bs := by
  rw [List.takeWhile_append_of_pos ha, List.dropWhile_append_of_pos ha]
  cases bs with
  | nil => simp
  | cons b bs => simp_all

lemma readUnsigned_digits (hne : as ≠ []) (ha : ∀ c ∈ as, isAsciiDigit c = true) :
    readUnsigned negative as = some (ofDecimal negative (digitsValue as) 0) := by
  obtain ⟨htake, hdrop⟩ := takeWhile_digits ha [] rfl
  rw [List.append_nil] at htake hdrop
  simp [readUnsigned, htake, hdrop, hne]

lemma readUnsigned_point (hne : as ≠ []) (ha : ∀ c ∈ as, isAsciiDigit c = true)
    (hb : ∀ c ∈ bs, isAsciiDigit c = true) :
    readUnsigned negative (as ++ '.' :: bs) =
      some (ofDecimal negative (digitsValue (as ++ bs)) (-bs.length)) := by
  obtain ⟨htake, hdrop⟩ := takeWhile_digits ha ('.' :: bs) rfl
  obtain ⟨htake', hdrop'⟩ := takeWhile_digits hb [] rfl
  rw [List.append_nil] at htake' hdrop'
  simp [readUnsigned, htake, hdrop, htake', hdrop', hne]

lemma length_toDigits_mul {n : Nat} (hn : 0 < n) (k : Nat) :
    (Nat.toDigits 10 (n * 10 ^ k)).length = (Nat.toDigits 10 n).length + k := by
  induction k with
  | zero => simp
  | succ k ih =>
    have hpos : 0 < n * 10 ^ k := Nat.mul_pos hn (by positivity)
    have h := Nat.toDigits_append_toDigits (by decide : 1 < 10) hpos (by decide : 0 < 10)
    rw [Nat.add_zero, Nat.mul_comm 10, Nat.mul_assoc, ← Nat.pow_succ] at h
    rw [← h, List.length_append, ih]
    rfl

/-- Zeros may be in the digits or in the scale. -/
lemma ofDecimal_mul_pow {n : Nat} (hn : 0 < n) (k : Nat) :
    ofDecimal negative (n * 10 ^ k) 0 = ofDecimal negative n k := by
  have hk : ¬(k : Int) < 0 := by omega
  simp [ofDecimal, hn.ne', length_toDigits_mul hn, hk]

/-- Digits before a point and behind it that are read as a decimal. -/
structure Decimal.Digits (d : Decimal) (as bs : List Char) : Prop where
  ne_nil : as ≠ []
  before : ∀ c ∈ as, isAsciiDigit c = true
  behind : ∀ c ∈ bs, isAsciiDigit c = true
  read : ∀ negative, ofDecimal negative (digitsValue (as ++ bs)) (-bs.length) =
    ofDecimal negative d.digits d.scale

lemma isAsciiDigit_of_mem_toDigits {n : Nat} : ∀ c ∈ Nat.toDigits 10 n, isAsciiDigit c = true :=
  fun _ hc => isAsciiDigit_of_isDigit (Nat.isDigit_of_mem_toDigits (by decide) (by decide) hc)

lemma isAsciiDigit_of_mem_zeros {k : Nat} : ∀ c ∈ List.replicate k '0', isAsciiDigit c = true := by
  intro c hc
  rw [List.eq_of_mem_replicate hc]
  decide

section Shapes
variable {d : Decimal} {k : Nat}

lemma digits_of_whole (hd : 0 < d.digits) (hk : d.scale = k) :
    d.Digits (Nat.toDigits 10 d.digits ++ List.replicate k '0') [] where
  ne_nil := by simp [Nat.toDigits_ne_nil]
  before := List.forall_mem_append.2 ⟨isAsciiDigit_of_mem_toDigits, isAsciiDigit_of_mem_zeros⟩
  behind := by simp
  read negative := by
    simp [digitsValue_eq, Nat.ofDigitChars_append, Nat.ofDigitChars_replicate_zero,
      Nat.ofDigitChars_ten_toDigits, hk, Nat.mul_comm (10 ^ k), ofDecimal_mul_pow hd]

lemma digits_of_small (hk : d.scale = -k) (hl : (Nat.toDigits 10 d.digits).length ≤ k) :
    d.Digits ['0'] (List.replicate (k - (Nat.toDigits 10 d.digits).length) '0' ++
      Nat.toDigits 10 d.digits) where
  ne_nil := by simp
  before := isAsciiDigit_of_mem_zeros (k := 1)
  behind := List.forall_mem_append.2 ⟨isAsciiDigit_of_mem_zeros, isAsciiDigit_of_mem_toDigits⟩
  read negative := by
    have hlen : (-(List.replicate (k - (Nat.toDigits 10 d.digits).length) '0' ++
        Nat.toDigits 10 d.digits).length : Int) = d.scale := by
      rw [List.length_append, List.length_replicate]
      omega
    rw [hlen, digitsValue_eq, Nat.ofDigitChars_append, Nat.ofDigitChars_append,
      Nat.ofDigitChars_replicate_zero]
    simp [Nat.ofDigitChars_cons, Nat.ofDigitChars_ten_toDigits]

lemma digits_of_broken (hk : d.scale = -k) (hl : k < (Nat.toDigits 10 d.digits).length) :
    d.Digits ((Nat.toDigits 10 d.digits).take ((Nat.toDigits 10 d.digits).length - k))
      ((Nat.toDigits 10 d.digits).drop ((Nat.toDigits 10 d.digits).length - k)) where
  ne_nil := by
    simp [Nat.toDigits_ne_nil]
    omega
  before c hc := isAsciiDigit_of_mem_toDigits c (List.mem_of_mem_take hc)
  behind c hc := isAsciiDigit_of_mem_toDigits c (List.mem_of_mem_drop hc)
  read negative := by
    have hlen : (-((Nat.toDigits 10 d.digits).drop
        ((Nat.toDigits 10 d.digits).length - k)).length : Int) = d.scale := by
      rw [List.length_drop]
      omega
    rw [hlen, List.take_append_drop, digitsValue_eq, Nat.ofDigitChars_ten_toDigits]

end Shapes

lemma exists_digits {d : Decimal} (hd : 0 < d.digits) :
    ∃ as bs, d.Digits as bs ∧ (d.toText = as ∧ bs = [] ∨ d.toText = as ++ '.' :: bs) := by
  simp only [Decimal.toText]
  split
  · rename_i hs
    exact ⟨_, _, digits_of_whole hd (by omega), .inl ⟨rfl, rfl⟩⟩
  · rename_i hs
    have hk : d.scale = -((-d.scale).toNat : Int) := by omega
    split
    · rename_i hl
      exact ⟨_, _, digits_of_small hk hl, .inr rfl⟩
    · rename_i hl
      exact ⟨_, _, digits_of_broken hk (Nat.lt_of_not_le hl), .inr rfl⟩

/-- A decimal that is written out is read as the decimal, after a sign and without one. -/
lemma readUnsigned_toText {d : Decimal} (hd : 0 < d.digits) (negative : Bool) :
    readUnsigned negative d.toText = some (ofDecimal negative d.digits d.scale) := by
  obtain ⟨as, bs, h, ⟨ht, rfl⟩ | ht⟩ := exists_digits hd
  · rw [ht, readUnsigned_digits h.ne_nil h.before, ← h.read]
    simp
  · rw [ht, readUnsigned_point h.ne_nil h.before h.behind, h.read]

/-! ### Signs -/

/-- A number with a sign given to it. -/
def withSign (negative : Bool) : Binary64 → Binary64
  | .finite _ m e => .finite negative m e
  | .infinite _ => .infinite negative
  | .nan => .nan

lemma ofRatio_eq_withSign (negative : Bool) (num den : Nat) :
    ofRatio negative num den = (ofRatio false num den).withSign negative := by
  simp only [ofRatio, apply_ite (withSign negative)]
  rfl

lemma ofDecimal_eq_withSign (negative : Bool) (n : Nat) (scale : Int) :
    ofDecimal negative n scale = (ofDecimal false n scale).withSign negative := by
  simp only [ofDecimal, apply_ite (withSign negative), ← ofRatio_eq_withSign]
  rfl

/-! ### Texts -/

lemma not_isAsciiDigit_toLower {c d : Char} (hc : isAsciiDigit c = true) (hd : isAsciiDigit d = false) :
    c.toLower ≠ d := by
  rintro rfl
  unfold isAsciiDigit at hc hd
  delta Char.toLower at hd
  split at hd
  · rename_i h
    simp [Char.le_def, UInt32.le_iff_toNat_le] at hc h
    omega
  · rw [hc] at hd
    cases hd

/-- A text that begins with a digit is no word, and is read as a decimal. -/
lemma ofText?_of_digit (hc : isAsciiDigit c = true) (cs : List Char) :
    ofText? (c :: cs) = readUnsigned false (c :: cs) ∧
      ofText? ('-' :: c :: cs) = readUnsigned true (c :: cs) := by
  have hword {w : String} {d : Char} (hd : isAsciiDigit d = false) (hw : w.toList.head? = some d) :
      String.ofList ((c :: cs).map Char.toLower) ≠ w := by
    rintro rfl
    rw [String.toList_ofList, List.map_cons, List.head?_cons, Option.some.injEq] at hw
    exact not_isAsciiDigit_toLower hc hd hw
  have hwords : ¬(String.ofList ((c :: cs).map Char.toLower) = "inf" ∨
      String.ofList ((c :: cs).map Char.toLower) = "infinity") :=
    not_or.2 ⟨hword (d := 'i') (by decide) (by decide), hword (d := 'i') (by decide) (by decide)⟩
  have hnan := hword (w := "nan") (d := 'n') (by decide) (by decide)
  have hsign : c ≠ '-' ∧ c ≠ '+' := by
    constructor <;> rintro rfl <;> exact absurd hc (by decide)
  constructor
  · simp only [ofText?]
    split
    · rename_i h
      exact absurd (List.cons.inj h).1 hsign.1
    · rename_i h
      exact absurd (List.cons.inj h).1 hsign.2
    · rw [if_neg hwords, if_neg hnan]
  · simp only [ofText?, if_neg hwords, if_neg hnan]

lemma ofText?_decimal {d : Decimal} (hd : 0 < d.digits) (negative : Bool) :
    ofText? ((if negative then ['-'] else []) ++ d.toText) =
      some (ofDecimal negative d.digits d.scale) := by
  obtain ⟨as, bs, h, ht⟩ := exists_digits hd
  obtain ⟨c, as, rfl⟩ := List.exists_cons_of_ne_nil h.ne_nil
  obtain ⟨cs, hcs⟩ : ∃ cs, d.toText = c :: cs := by
    obtain ⟨ht, -⟩ | ht := ht
    · exact ⟨as, ht⟩
    · exact ⟨as ++ '.' :: bs, ht⟩
  obtain ⟨hplain, hsigned⟩ := ofText?_of_digit (h.before c List.mem_cons_self) cs
  rw [← hcs] at hplain hsigned
  cases negative with
  | false => exact hplain.trans (readUnsigned_toText hd false)
  | true => exact hsigned.trans (readUnsigned_toText hd true)

/-- A number that is written is read as the number. -/
theorem ofText?_toText {x : Binary64} (hx : x.Kept) : ofText? x.toText.toList = some x := by
  cases x with
  | nan => decide
  | infinite negative => cases negative <;> decide
  | finite negative m e =>
    obtain rfl | hm := Nat.eq_zero_or_pos m
    · obtain rfl : e = -1074 := hx.2.2.2.resolve_left (by decide)
      cases negative <;> decide
    · have hread := ofDecimal_shortest hm hx
      have hd : 0 < (shortest (finite false m e)).digits := by
        by_contra hz
        rw [Nat.eq_zero_of_not_pos hz] at hread
        exact hm.ne (finite.inj hread).2.1
      rw [toText, if_neg hm.ne', String.toList_ofList, ofText?_decimal hd, ofDecimal_eq_withSign,
        hread]
      rfl

lemma kept_ofDecimal (negative : Bool) (n : Nat) (scale : Int) :
    (ofDecimal negative n scale).Kept := by
  have hzero : (zero negative).Kept := by simp [zero, Kept]
  simp only [ofDecimal]
  split
  · exact hzero
  split
  · trivial
  split
  · exact hzero
  split
  · exact kept_ofRatio _ _ (Nat.pow_pos (by decide))
  · exact kept_ofRatio _ _ Nat.one_pos

lemma kept_of_readUnsigned {x : Binary64} (h : readUnsigned negative cs = some x) : x.Kept := by
  simp only [readUnsigned] at h
  -- with a point or without one, what is read is a decimal
  split at h
  all_goals
    split at h
    · cases h
    split at h
    · obtain rfl := Option.some.inj h
      exact kept_ofDecimal _ _ _
    · split at h
      · obtain ⟨e, -, rfl⟩ := Option.map_eq_some_iff.1 h
        exact kept_ofDecimal _ _ _
      · cases h

/-- Whatever is read is in the form in which numbers are kept. -/
theorem kept_of_ofText? {x : Binary64} (h : ofText? cs = some x) : x.Kept := by
  simp only [ofText?] at h
  split at h
  all_goals
    split at h
    · obtain rfl := Option.some.inj h
      trivial
    split at h
    · obtain rfl := Option.some.inj h
      trivial
    · exact kept_of_readUnsigned h

/-- Numbers that were read are told apart by how they are written. -/
theorem toText_injective {x y : Binary64} (hx : x.Kept) (hy : y.Kept) (h : x.toText = y.toText) :
    x = y := by
  have hread := ofText?_toText hx
  rw [h, ofText?_toText hy] at hread
  exact (Option.some.inj hread).symm

/-! ### Characters -/

lemma mem_decimal_toText {c : Char} {d : Decimal} (h : c ∈ d.toText) :
    c.isDigit = true ∨ c = '.' := by
  have digit {c : Char} (hc : c ∈ Nat.toDigits 10 d.digits) : c.isDigit = true :=
    Nat.isDigit_of_mem_toDigits (by decide) (by decide) hc
  have zero {n : Nat} {c : Char} (hc : c ∈ List.replicate n '0') : c.isDigit = true := by
    rw [List.eq_of_mem_replicate hc]
    rfl
  simp only [Decimal.toText] at h
  split at h
  · exact .inl ((List.mem_append.1 h).elim digit zero)
  · split at h
    · simp only [List.mem_cons, List.cons_append, List.mem_append] at h
      obtain rfl | rfl | h | h := h
      · exact .inl rfl
      · exact .inr rfl
      · exact .inl (zero h)
      · exact .inl (digit h)
    · obtain h | h := List.mem_append.1 h
      · exact .inl (digit (List.mem_of_mem_take h))
      · obtain rfl | h := List.mem_cons.1 h
        · exact .inr rfl
        · exact .inl (digit (List.mem_of_mem_drop h))

lemma mem_toText {c : Char} {x : Binary64} (h : c ∈ x.toText.toList) :
    c.isDigit = true ∨ c ∈ ".-NaNinf".toList := by
  cases x with
  | nan => exact .inr ((by decide : "NaN".toList ⊆ ".-NaNinf".toList) h)
  | infinite negative =>
    cases negative
    · exact .inr ((by decide : "inf".toList ⊆ ".-NaNinf".toList) h)
    · exact .inr ((by decide : "-inf".toList ⊆ ".-NaNinf".toList) h)
  | finite negative m e =>
    simp only [toText, String.toList_ofList] at h
    obtain h | h := List.mem_append.1 h
    · cases negative <;> simp at h
      subst h
      exact .inr (by decide)
    · split at h
      · rw [List.mem_singleton.1 h]
        exact .inl rfl
      · obtain h | rfl := mem_decimal_toText h
        · exact .inl h
        · exact .inr (by decide)

end Moderation.Binary64
