import Mathlib.Tactic.Lemma
import Mathlib.Tactic.SplitIfs

/-!
The bytes of texts. Texts that are compared character by character are in the order of their bytes: a
greater character has greater bytes, and the bytes of no character are the beginning of those of another.
-/
namespace Moderation.Text

/-- The bytes of a text in UTF-8. -/
def bytes (text : String) : List UInt8 := text.toList.flatMap String.utf8EncodeChar

lemma ofNat_cons_lt_iff {m n : Nat} (hm : m < 256) (hn : n < 256) (r s : List UInt8) :
    UInt8.ofNat m :: r < UInt8.ofNat n :: s ↔ m < n ∨ m = n ∧ r < s := by
  rw [List.cons_lt_cons_iff, UInt8.lt_iff_toNat_lt, ← UInt8.toNat_inj, UInt8.toNat_ofNat_of_lt' hm,
    UInt8.toNat_ofNat_of_lt' hn]

/-- The bytes of a character come before those of a greater one, whatever follows. -/
lemma utf8EncodeChar_append_lt {c d : Char} (h : c < d) (r s : List UInt8) :
    String.utf8EncodeChar c ++ r < String.utf8EncodeChar d ++ s := by
  have hlt : c.val.toNat < d.val.toNat := h
  have hd : d.val.toNat < 0x110000 := by
    rcases d.valid with h | h
    · exact Nat.lt_trans h (by decide)
    · exact h.2
  have hthree (n : Nat) : n / 4096 = n / 64 / 64 := by omega
  have hfour (n : Nat) : n / 262144 = n / 64 / 64 / 64 := by omega
  -- a longer form begins with a greater byte, and forms of one length are compared digit by digit
  simp only [String.utf8EncodeChar, hthree, hfour]
  split_ifs <;>
    simp (disch := omega) only [List.cons_append, List.nil_append, ofNat_cons_lt_iff] <;> omega

lemma flatMap_utf8EncodeChar_lt {cs ds : List Char} (h : cs < ds) :
    cs.flatMap String.utf8EncodeChar < ds.flatMap String.utf8EncodeChar := by
  induction cs generalizing ds with
  | nil =>
    cases ds with
    | nil => exact absurd h (List.lt_irrefl _)
    | cons d ds =>
      rw [List.flatMap_cons, List.flatMap_nil]
      cases hd : String.utf8EncodeChar d with
      | nil => exact absurd hd String.utf8EncodeChar_ne_nil
      | cons x xs => exact List.nil_lt_cons _ _
  | cons c cs ih =>
    cases ds with
    | nil => exact absurd h (List.not_lt_nil _)
    | cons d ds =>
      rw [List.flatMap_cons, List.flatMap_cons]
      obtain hcd | ⟨rfl, hlt⟩ := List.cons_lt_cons_iff.1 h
      · exact utf8EncodeChar_append_lt hcd _ _
      · exact List.append_left_lt (ih hlt)

/-- One text comes before another exactly if its bytes come before those of the other. -/
theorem bytes_le_bytes_iff {a b : String} : bytes a ≤ bytes b ↔ a ≤ b := by
  have hmono {a b : String} (h : a < b) : bytes a < bytes b := flatMap_utf8EncodeChar_lt h
  constructor
  · intro h hba
    exact h (hmono hba)
  · intro h hba
    by_cases hab : a < b
    · exact List.lt_asymm hba (hmono hab)
    · obtain rfl := String.le_antisymm h hab
      exact List.lt_irrefl _ hba

end Moderation.Text
