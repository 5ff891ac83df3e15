import Moderation.Number.Binary64
import Moderation.Unicode.Class

/-!
Decimal texts of numbers: any decimal is read as the nearest number, and a number is written with
the fewest digits that read back, the nearest ones of these, and never with an exponent.
-/
namespace Moderation.Binary64
open Moderation.Unicode

def digitsValue (ds : List Char) : Nat :=
  ds.foldl (fun n c => 10 * n + (c.toNat - '0'.toNat)) 0

/-- The number nearest to `digits * 10 ^ scale`. Beyond four hundred places on either side of the
point every number is infinite or zero. -/
def ofDecimal (negative : Bool) (digits : Nat) (scale : Int) : Binary64 :=
  if digits = 0 then zero negative
  else
    let places : Int := (Nat.toDigits 10 digits).length + scale
    if 400 < places then .infinite negative
    else if places < -400 then zero negative
    else if scale < 0 then ofRatio negative digits (Nat.pow 10 (-scale).toNat)
    else ofRatio negative (digits * Nat.pow 10 scale.toNat) 1

/-- An exponent after its mark: an optional sign and at least one digit, and nothing else. -/
def readExponent (cs : List Char) : Option Int :=
  let (negative, ds) := match cs with
    | '-' :: r => (true, r)
    | '+' :: r => (false, r)
    | r => (false, r)
  if ds.isEmpty || !ds.all isAsciiDigit then none
  else some (if negative then -(digitsValue ds : Int) else digitsValue ds)

/-- A decimal without sign: digits with or without a point among or beside them, and an exponent. -/
def readUnsigned (negative : Bool) (cs : List Char) : Option Binary64 :=
  let whole := cs.takeWhile isAsciiDigit
  let rest := cs.dropWhile isAsciiDigit
  let (places, rest) := match rest with
    | '.' :: r => (r.takeWhile isAsciiDigit, r.dropWhile isAsciiDigit)
    | r => ([], r)
  if whole.isEmpty && places.isEmpty then none
  else
    let number (e : Int) := ofDecimal negative (digitsValue (whole ++ places)) (e - places.length)
    match rest with
    | [] => some (number 0)
    | c :: r => if c = 'e' ∨ c = 'E' then (readExponent r).map number else none

/-- A number as text: an optional sign, and a decimal or one of the words for infinity and for no
number, in letters of either case. -/
def ofText? (cs : List Char) : Option Binary64 :=
  let (negative, cs) := match cs with
    | '-' :: r => (true, r)
    | '+' :: r => (false, r)
    | r => (false, r)
  let word := String.ofList (cs.map Char.toLower)
  if word = "inf" ∨ word = "infinity" then some (.infinite negative)
  else if word = "nan" then some .nan
  else readUnsigned negative cs

/-- Places before the point, for a positive fraction: the least `t` with `num / den < 10 ^ t`, which
is not positive for fractions below one tenth. -/
def placesBefore (num den : Nat) : Int :=
  if den ≤ num then (Nat.toDigits 10 (num / den)).length
  else -((List.range 400).takeWhile fun s => num * Nat.pow 10 (s + 1) < den).length

/-- A decimal `digits * 10 ^ scale`. -/
structure Decimal where
  digits : Nat
  scale : Int
deriving DecidableEq, Repr

def Decimal.magnitude (d : Decimal) : Nat × Nat :=
  if d.scale < 0 then (d.digits, Nat.pow 10 (-d.scale).toNat)
  else (d.digits * Nat.pow 10 d.scale.toNat, 1)

/-- A decimal with one zero at its end moved into the scale. -/
def Decimal.trimmed (d : Decimal) : Decimal :=
  if d.digits % 10 = 0 then ⟨d.digits / 10, d.scale + 1⟩ else d

/-- The two neighbours of a fraction on the decimal grid with step `10 ^ scale`. The upper one may
have a digit more, a one before zeros; it ends in one zero where no coarser grid has it. -/
def neighbours (num den : Nat) (scale : Int) : Decimal × Decimal :=
  let q := if scale < 0 then num * Nat.pow 10 (-scale).toNat / den
    else num / (den * Nat.pow 10 scale.toNat)
  (⟨q, scale⟩, Decimal.trimmed ⟨q + 1, scale⟩)

/-- The distance of a decimal from a fraction, times the product of the denominators. -/
def distance (d : Decimal) (num den : Nat) : Nat :=
  let (a, b) := d.magnitude
  max (a * den) (num * b) - min (a * den) (num * b)

/-- The neighbour that reads back as `x`; of two such neighbours the nearer. -/
def readsBack (x : Binary64) (num den : Nat) (scale : Int) : Option Decimal :=
  let (below, above) := neighbours num den scale
  let hits (d : Decimal) := decide (ofDecimal false d.digits d.scale = x)
  match hits below, hits above with
  | true, true => some (if distance below num den ≤ distance above num den then below else above)
  | true, false => some below
  | false, true => some above
  | false, false => none

/-- The shortest decimal that reads back as the positive number `x`. -/
def shortest (x : Binary64) : Decimal :=
  let (num, den) := x.magnitude
  let t := placesBefore num den
  ((List.range 17).findSome? fun n : Nat => readsBack x num den (t - ((n : Int) + 1))).getD ⟨0, 0⟩

/-- A decimal written out, with a point if there are places after it. -/
def Decimal.toText (d : Decimal) : List Char :=
  let ds := Nat.toDigits 10 d.digits
  if 0 ≤ d.scale then ds ++ List.replicate d.scale.toNat '0'
  else
    let after := (-d.scale).toNat
    if ds.length ≤ after then '0' :: '.' :: List.replicate (after - ds.length) '0' ++ ds
    else ds.take (ds.length - after) ++ '.' :: ds.drop (ds.length - after)

/-- A number written with the fewest digits that read back. -/
def toText : Binary64 → String
  | .nan => "NaN"
  | .infinite negative => if negative then "-inf" else "inf"
  | .finite negative m e =>
    let sign := if negative then ['-'] else []
    let digits := if m = 0 then ['0'] else (shortest (.finite false m e)).toText
    .ofList (sign ++ digits)

example : (ofText? "0.1".toList).map toText = some "0.1" := by decide +kernel
example : (ofText? "1e21".toList).map toText = some "1000000000000000000000" := by decide +kernel
example : (ofText? "-1E-7".toList).map toText = some "-0.0000001" := by decide +kernel
example : (ofText? "5.".toList).map toText = some "5" := by decide +kernel
example : (ofText? "18446744073709551615".toList).map toText = some "18446744073709552000" := by
  decide +kernel
example : (ofText? "4.9e-324".toList).map toText = (ofText? "5e-324".toList).map toText := by
  decide +kernel

end Moderation.Binary64
