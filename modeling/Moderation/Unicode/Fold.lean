import Moderation.Unicode.CaseTable

/-!
Letters that differ in case only. Each has one representative, and the variants of a letter are all
letters with the same representative.
-/
namespace Moderation.Unicode

/-- The representative of a code point. -/
def fold (c : Nat) : Nat :=
  if c < 128 then if 65 ≤ c ∧ c ≤ 90 then c + 32 else c
  else (Shift.lookup Shift.folded c).getD c

/-- The other code points with an ASCII representative: the capital, and the signs for kelvin and
long s. -/
def asciiVariants (f : Nat) : List Nat :=
  if 97 ≤ f ∧ f ≤ 122 then
    (f - 32) :: (if f = 107 then [0x212A] else if f = 115 then [0x17F] else [])
  else []

/-- The code points that a code point stands for when case is ignored, itself included. -/
def variants (c : Nat) : List Nat :=
  let f := fold c
  f :: if f < 128 then asciiVariants f else Shift.preimages Shift.folded f

example : Shift.preimages Shift.folded 107 = [0x212A] := by decide
example : Shift.preimages Shift.folded 115 = [0x17F] := by decide
example : variants 'ẞ'.toNat = ['ß'.toNat, 'ẞ'.toNat] := by decide

end Moderation.Unicode
