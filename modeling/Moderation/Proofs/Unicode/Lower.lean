import Mathlib.Data.List.Basic
import Mathlib.Tactic.Lemma
import Moderation.Unicode.Case
import Moderation.Unicode.Class

/-!
Characters of ASCII, and small forms of characters and texts. Outside ASCII a small form is the image of
a run of letters, and none of these images is near the signs that texts are formatted with. A text
without a capital sigma is made small character by character. Blanks, marks and signs up to Latin-1 are in
no small form of another character, so that they stay where they are.
-/
namespace Moderation.Unicode

variable {c : Char} {cs : List Char}

lemma forall_ascii {P : Char → Prop} (h : ∀ n < 128, P (Char.ofNat n)) (hc : c.toNat < 128) : P c := by
  simpa using h c.toNat hc

lemma toNat_lt_of_alphanumeric {c : Char} (h : isAsciiAlphanumeric c = true) : c.toNat < 128 := by
  simp only [isAsciiAlphanumeric, isAsciiLetter, isAsciiDigit, Bool.or_eq_true, Bool.and_eq_true,
    decide_eq_true_eq, Char.le_def, UInt32.le_iff_toNat_le] at h
  have hsmall {b : Char} (hb : b.toNat < 128) (hc : c.val.toNat ≤ b.val.toNat) : c.toNat < 128 :=
    Nat.lt_of_le_of_lt hc hb
  rcases h with (h | h) | h
  · exact hsmall (b := 'z') (by decide) h.2
  · exact hsmall (b := 'Z') (by decide) h.2
  · exact hsmall (b := '9') (by decide) h.2

lemma toNat_ofNat (n : Nat) : (Char.ofNat n).toNat = n ∨ (Char.ofNat n).toNat = 0 := by
  by_cases h : n.isValidChar
  · rw [Char.ofNat, dif_pos h]
    exact .inl rfl
  · rw [Char.ofNat, dif_neg h]
    exact .inr rfl

namespace Shift

lemma exists_of_lookup {table : List Shift} {k n : Nat} (h : lookup table k = some n) :
    ∃ s ∈ table, s.first ≤ k ∧ k ≤ s.last ∧ (k - s.first) % s.step = 0 ∧
      n = s.image + (k - s.first) := by
  fun_induction lookup table k with
  | case1 => contradiction
  | case2 => contradiction
  | case3 s r k hfirst hlast hstep =>
    exact ⟨s, List.mem_cons_self, Nat.le_of_not_lt hfirst, hlast, hstep, (Option.some.inj h).symm⟩
  | case4 => contradiction
  | case5 s r k hfirst hlast ih =>
    obtain ⟨t, ht, hrun⟩ := ih h
    exact ⟨t, List.mem_cons_of_mem s ht, hrun⟩

/-- Only the kelvin sign has a small form before the letters of Latin-1, and it is none itself. -/
lemma image_toLower {s : Shift} (h : s ∈ toLower) :
    (s.first = 0x212A ∧ s.last = 0x212A ∧ s.image = 'k'.toNat) ∨
      (0xC0 ≤ s.image ∧ ¬(s.image ≤ 0x212A ∧ 0x212A ≤ s.image + (s.last - s.first))) := by
  revert s
  decide +kernel

end Shift

/-- The small form of a character: that of the kelvin sign is the letter, that of a capital with a dot has two
characters, and outside ASCII every other one is a single character there, and no kelvin sign. -/
lemma lower_cases (c : Char) :
    c.toNat < 128 ∧ lower c = [c.toLower] ∨ c = '\u212A' ∧ lower c = ['k'] ∨
      c = 'İ' ∧ lower c = ['i', '\u0307'] ∨
      128 ≤ c.toNat ∧ c ≠ '\u212A' ∧ ∃ d : Char, lower c = [d] ∧
        (d = c ∨ d.toNat = 0 ∨ 0xC0 ≤ d.toNat ∧ d ≠ '\u212A') := by
  by_cases hascii : c.toNat < 128
  · exact .inl ⟨hascii, by rw [lower, if_pos hascii]⟩
  by_cases hdot : c = 'İ'
  · exact .inr (.inr (.inl ⟨hdot, by rw [hdot]; decide⟩))
  by_cases hkelvin : c = '\u212A'
  · exact .inr (.inl ⟨hkelvin, by rw [hkelvin]; decide⟩)
  refine .inr (.inr (.inr ⟨Nat.le_of_not_lt hascii, hkelvin, ?_⟩))
  rw [lower, if_neg hascii, if_neg hdot]
  cases hlookup : Shift.lookup Shift.toLower c.toNat with
  | none => exact ⟨c, rfl, .inl rfl⟩
  | some n =>
    refine ⟨Char.ofNat n, rfl, .inr ?_⟩
    obtain ⟨s, hs, hfirst, hlast, -, rfl⟩ := Shift.exists_of_lookup hlookup
    have hne : c.toNat ≠ 0x212A := fun h => hkelvin (Char.toNat_inj.1 h)
    obtain ⟨hf, hl, -⟩ | ⟨himage, hno⟩ := Shift.image_toLower hs
    · omega
    · obtain hn | hn := toNat_ofNat (s.image + (c.toNat - s.first))
      · refine .inr ⟨by omega, fun h => ?_⟩
        have hk : s.image + (c.toNat - s.first) = 0x212A := by rw [← hn, h]; rfl
        omega
      · exact .inl hn

lemma length_lower (hc : c ≠ 'İ') : (lower c).length = 1 := by
  obtain ⟨-, h⟩ | ⟨-, h⟩ | ⟨hdot, -⟩ | ⟨-, -, d, h, -⟩ := lower_cases c
  · rw [h]; rfl
  · rw [h]; rfl
  · contradiction
  · rw [h]; rfl

lemma lower_ne_nil (c : Char) : lower c ≠ [] := by
  obtain ⟨-, h⟩ | ⟨-, h⟩ | ⟨-, h⟩ | ⟨-, -, d, h, -⟩ := lower_cases c <;> simp [h]

/-- The small form of a character in a text, where a capital sigma may be a final one. -/
def lowerIn (final : Bool) (c : Char) : List Char :=
  if c = 'Σ' then [if final then 'ς' else 'σ'] else lower c

/-- Whether a capital sigma between two texts is a final one. -/
def isFinal (before rest : List Char) : Bool := meetsCased before.reverse && !meetsCased rest

lemma lowerAfter_cons (before : List Char) (c : Char) (rest : List Char) :
    lowerAfter before (c :: rest) =
      lowerIn (meetsCased before && !meetsCased rest) c ++ lowerAfter (c :: before) rest := by
  rw [lowerAfter, lowerIn]

lemma lowerIn_of_ne (hc : c ≠ 'Σ') (final : Bool) : lowerIn final c = lower c := if_neg hc

lemma length_lowerIn (hc : c ≠ 'İ') (final : Bool) : (lowerIn final c).length = 1 := by
  rw [lowerIn]
  split
  · rfl
  · exact length_lower hc

lemma lowerIn_ne_nil (final : Bool) (c : Char) : lowerIn final c ≠ [] := by
  rw [lowerIn]
  split
  · simp
  · exact lower_ne_nil c

/-- Only a sigma has two small forms. -/
lemma lowerIn_append_inj {final final' : Bool} {xs ys : List Char} :
    lowerIn final c ++ xs = lowerIn final' c ++ ys ↔ (c = 'Σ' → final = final') ∧ xs = ys := by
  by_cases hc : c = 'Σ'
  · subst hc
    cases final <;> cases final' <;> simp [lowerIn]
  · simp [lowerIn_of_ne hc, hc]

/-- Without a capital sigma a text is made small character by character. -/
theorem lowerText_eq_flatMap (h : 'Σ' ∉ cs) : lowerText cs = cs.flatMap lower := by
  suffices ∀ before, lowerAfter before cs = cs.flatMap lower from this []
  induction cs with
  | nil => simp
  | cons c cs ih =>
    intro before
    obtain ⟨hc, hcs⟩ := not_or.1 (mt List.mem_cons.2 h)
    rw [lowerAfter_cons, lowerIn_of_ne (Ne.symm hc), ih hcs, List.flatMap_cons]

/-- A small form has a character at least for each one of the text. -/
theorem length_le_length_lowerText (cs : List Char) : cs.length ≤ (lowerText cs).length := by
  suffices ∀ before, cs.length ≤ (lowerAfter before cs).length from this []
  induction cs with
  | nil => simp
  | cons c cs ih =>
    intro before
    have hc := List.length_pos_iff.2
      (lowerIn_ne_nil (meetsCased before && !meetsCased cs) c)
    have hcs := ih (c :: before)
    rw [lowerAfter_cons, List.length_append, List.length_cons]
    omega

/-- Without a capital with a dot a text keeps its length. -/
theorem length_lowerText (h : 'İ' ∉ cs) : (lowerText cs).length = cs.length := by
  suffices ∀ before, (lowerAfter before cs).length = cs.length from this []
  induction cs with
  | nil => simp
  | cons c cs ih =>
    intro before
    obtain ⟨hc, hcs⟩ := not_or.1 (mt List.mem_cons.2 h)
    rw [lowerAfter_cons, List.length_append, length_lowerIn (Ne.symm hc), ih hcs, List.length_cons,
      Nat.add_comm]

/-! ### Characters that are in no small form of another one -/

/-- A character before the letters of Latin-1 that is no letter of ASCII. The null character is left out. -/
def isFixed (c : Char) : Bool := 0 < c.toNat && c.toNat < 0xC0 && !isAsciiLetter c

section Fixed
variable {m : Char} {final : Bool}

lemma isFixed_iff : isFixed m = true ↔ 0 < m.toNat ∧ m.toNat < 0xC0 ∧ isAsciiLetter m = false := by
  simp [isFixed, and_assoc]

lemma lower_of_isFixed (hm : isFixed m = true) : lower m = [m] := by
  have hall : ∀ n < 0xC0, isFixed (Char.ofNat n) = true → lower (Char.ofNat n) = [Char.ofNat n] := by
    decide +kernel
  have h := hall m.toNat (isFixed_iff.1 hm).2.1
  rw [Char.ofNat_toNat] at h
  exact h hm

lemma eq_of_mem_lower (hm : isFixed m = true) (h : m ∈ lower c) : m = c := by
  obtain ⟨hnull, hlatin, hletter⟩ := isFixed_iff.1 hm
  obtain ⟨hc, hlow⟩ | ⟨-, hlow⟩ | ⟨-, hlow⟩ | ⟨-, -, d, hlow, hd⟩ := lower_cases c
  · -- a capital letter has a letter for its small form
    obtain rfl : m = c.toLower := by simpa [hlow] using h
    obtain hself | hsmall := forall_ascii (P := fun c => c.toLower = c ∨ isAsciiLetter c.toLower = true)
      (by decide) hc
    · exact hself
    · simp [hsmall] at hletter
  · obtain rfl : m = 'k' := by simpa [hlow] using h
    contradiction
  · obtain rfl | rfl : m = 'i' ∨ m = '\u0307' := by simpa [hlow] using h
    · contradiction
    · contradiction
  · obtain rfl : m = d := by simpa [hlow] using h
    obtain rfl | hd | ⟨hd, -⟩ := hd
    · rfl
    · omega
    · omega

lemma lowerIn_of_isFixed (hm : isFixed m = true) (final : Bool) : lowerIn final m = [m] := by
  have hsigma : m ≠ 'Σ' := by
    rintro rfl
    contradiction
  rw [lowerIn_of_ne hsigma, lower_of_isFixed hm]

lemma mem_lowerIn_iff (hm : isFixed m = true) : m ∈ lowerIn final c ↔ m = c := by
  constructor
  · rw [lowerIn]
    split
    · -- neither form of sigma is one of these characters
      intro h
      obtain rfl : m = if final then 'ς' else 'σ' := List.mem_singleton.1 h
      cases final <;> contradiction
    · exact eq_of_mem_lower hm
  · rintro rfl
    rw [lowerIn_of_isFixed hm]
    exact List.mem_singleton_self m

/-- A text and its small form have the same ones. -/
theorem mem_lowerText_iff (hm : isFixed m = true) : m ∈ lowerText cs ↔ m ∈ cs := by
  suffices ∀ before, m ∈ lowerAfter before cs ↔ m ∈ cs from this []
  induction cs with
  | nil => simp
  | cons c cs ih =>
    intro before
    rw [lowerAfter_cons, List.mem_append, mem_lowerIn_iff hm, ih, List.mem_cons]

/-- A text ends with one exactly if its small form does. -/
theorem getLast?_lowerText_iff (hm : isFixed m = true) :
    (lowerText cs).getLast? = some m ↔ cs.getLast? = some m := by
  suffices ∀ before, (lowerAfter before cs).getLast? = some m ↔ cs.getLast? = some m from this []
  induction cs with
  | nil => simp
  | cons c cs ih =>
    intro before
    cases cs with
    | nil =>
      rw [lowerAfter_cons, lowerAfter_nil, List.append_nil, List.getLast?_singleton, Option.some.injEq]
      constructor
      · intro h
        exact ((mem_lowerIn_iff hm).1 (List.mem_of_getLast? h)).symm
      · rintro rfl
        rw [lowerIn_of_isFixed hm, List.getLast?_singleton]
    | cons d cs =>
      have hne : lowerAfter (c :: before) (d :: cs) ≠ [] := by
        rw [lowerAfter_cons]
        exact List.append_ne_nil_of_left_ne_nil (lowerIn_ne_nil _ d) _
      rw [lowerAfter_cons, List.getLast?_append_of_ne_nil _ hne, List.getLast?_cons_cons, ih (c :: before)]

end Fixed

end Moderation.Unicode
