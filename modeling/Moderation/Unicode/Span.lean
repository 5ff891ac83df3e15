/-!
Sets of code points as spans in ascending order, and a compact written form for them: hexadecimal
bounds, a hyphen between them, and a slash before a step other than one.
-/
namespace Moderation.Unicode

/-- The code points from `first` to `last`, every `step`-th one. -/
structure Span where
  first : Nat
  last : Nat
  step : Nat
deriving DecidableEq, Repr

namespace Span

def contains (s : Span) (c : Nat) : Bool :=
  decide (s.first ≤ c) && decide (c ≤ s.last) && (c - s.first) % s.step == 0

/-- The value of a hexadecimal digit; other characters count as zero. -/
def hexValue (c : Char) : Nat :=
  if '0' ≤ c ∧ c ≤ '9' then c.toNat - '0'.toNat
  else if 'A' ≤ c ∧ c ≤ 'F' then c.toNat - 'A'.toNat + 10
  else if 'a' ≤ c ∧ c ≤ 'f' then c.toNat - 'a'.toNat + 10
  else 0

/-- One pass over a written list: `number` is the digits read so far, `span` the span they belong
to, and the field that they fill is the first bound, the last bound or the step. -/
inductive Field
  | first
  | last (first : Nat)
  | step (first last : Nat)

/-- The span that ends at a blank. -/
def Field.close : Field → Nat → Span
  | .first, n => ⟨n, n, 1⟩
  | .last a, n => ⟨a, n, 1⟩
  | .step a b, n => ⟨a, b, n⟩

/-- The spans of a written list from the middle of one of its entries on. -/
def readFrom : Field → Nat → List Char → List Span
  | field, n, [] => [field.close n]
  | field, n, ' ' :: r => field.close n :: readFrom .first 0 r
  | .first, n, '-' :: r => readFrom (.last n) 0 r
  | .last a, n, '/' :: r => readFrom (.step a n) 0 r
  | field, n, c :: r => readFrom field (16 * n + hexValue c) r

def readAll (lines : List String) : List Span := lines.flatMap fun l => readFrom .first 0 l.toList

example : readAll ["41-5A AA", "100-136/2"] =
    [⟨0x41, 0x5A, 1⟩, ⟨0xAA, 0xAA, 1⟩, ⟨0x100, 0x136, 2⟩] := by
  cbv

end Span

/-- Membership in spans that are disjoint and in ascending order. -/
def inSpans : List Span → Nat → Bool
  | [], _ => false
  | s :: r, c =>
    if c < s.first then false
    else if c ≤ s.last then (c - s.first) % s.step == 0
    else inSpans r c

@[simp] theorem inSpans_nil (c : Nat) : inSpans [] c = false := rfl

end Moderation.Unicode
