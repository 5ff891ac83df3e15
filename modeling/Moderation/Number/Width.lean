/-!
Integers of limited width.
-/
namespace Moderation

def valuesOf (bits : Nat) : Nat := Nat.pow 2 bits

def fits (bits n : Nat) : Bool := n < valuesOf bits

/-- Whether an integer is one of so many bits beside its sign, or a natural number of one bit more. -/
def fitsEither (bits : Nat) (n : Int) : Bool :=
  if n < 0 then n.natAbs ≤ valuesOf bits else fits (bits + 1) n.natAbs

example : fits 8 255 = true ∧ fits 8 256 = false := by decide
example : fitsEither 7 (-128) = true ∧ fitsEither 7 (-129) = false := by decide
example : fitsEither 7 255 = true ∧ fitsEither 7 256 = false := by decide

end Moderation
