/-!
Numbers of 53 binary digits: a sign, a significand and an exponent, in exact integer arithmetic.
Quotients are rounded to the nearest number, a tie to the even significand.
-/
namespace Moderation

/-- A number of 53 binary digits. A finite one stands for `significand * 2 ^ exponent`, with the
exponent as small as the digits allow and not below `-1074`. -/
inductive Binary64
  | finite (negative : Bool) (significand : Nat) (exponent : Int)
  | infinite (negative : Bool)
  | nan
deriving DecidableEq, Repr

namespace Binary64

def zero (negative : Bool) : Binary64 := .finite negative 0 (-1074)

/-- `num / den` in units of `2 ^ exponent`, as a fraction. -/
def inUnits (num den : Nat) (exponent : Int) : Nat × Nat :=
  if exponent < 0 then (num * Nat.pow 2 (-exponent).toNat, den)
  else (num, den * Nat.pow 2 exponent.toNat)

/-- The nearest integer of a fraction, a tie to the even one. -/
def roundEven (num den : Nat) : Nat :=
  let q := num / den
  let r := num % den
  if den < 2 * r ∨ (2 * r = den ∧ q % 2 = 1) then q + 1 else q

/-- The nearest integer of a fraction, a tie to the greater one. -/
def roundUp (num den : Nat) : Nat := (2 * num + den) / (2 * den)

/-- The exponent whose units leave 53 digits before the point, for a positive fraction. -/
def unitOf (num den : Nat) : Int :=
  let e : Int := (num.log2 : Int) - den.log2 - 53
  let (n, d) := inUnits num den e
  max (if Nat.pow 2 53 ≤ n / d then e + 1 else e) (-1074)

/-- The number nearest to `num / den`, where `den` is positive. -/
def ofRatio (negative : Bool) (num den : Nat) : Binary64 :=
  if num = 0 then zero negative
  else
    let e := unitOf num den
    let (n, d) := inUnits num den e
    let m := roundEven n d
    let (m, e) := if m = Nat.pow 2 53 then (Nat.pow 2 52, e + 1) else (m, e)
    if 971 < e then .infinite negative else .finite negative m e

def ofNat (n : Nat) : Binary64 := ofRatio false n 1

def ofInt (n : Int) : Binary64 := ofRatio (n < 0) n.natAbs 1

/-- The absolute value of a finite number as a fraction. -/
def magnitude : Binary64 → Nat × Nat
  | .finite _ m e => if e < 0 then (m, Nat.pow 2 (-e).toNat) else (m * Nat.pow 2 e.toNat, 1)
  | _ => (0, 1)

/-- The quotient of two finite numbers that are not below zero; the second one is positive. -/
def quotient (x y : Binary64) : Binary64 :=
  let (a, b) := x.magnitude
  let (c, d) := y.magnitude
  ofRatio false (a * d) (b * c)

/-- Neither infinite nor undefined nor below zero; negative zero is not below zero. -/
def isFiniteNonNegative : Binary64 → Bool
  | .finite negative m _ => !negative || m == 0
  | _ => false

@[simp] theorem isFiniteNonNegative_zero (negative : Bool) :
    (zero negative).isFiniteNonNegative = true := by simp [zero, isFiniteNonNegative]

@[simp] theorem ofRatio_zero (negative : Bool) (den : Nat) :
    ofRatio negative 0 den = zero negative := rfl

example : ofNat 1 = .finite false (2 ^ 52) (-52) := by decide +kernel
example : ofRatio false 1 10 = .finite false 0x1999999999999A (-56) := by decide +kernel
example : ofNat (2 ^ 53 + 1) = .finite false (2 ^ 52) 1 := by decide +kernel
example : ofNat (2 ^ 1024) = .infinite false := by decide +kernel

end Binary64

end Moderation
