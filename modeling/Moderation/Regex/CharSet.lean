import Moderation.Unicode.Class
import Moderation.Unicode.Fold

/-!
Sets of characters as patterns write them: ranges, named classes, and what brackets make of these.
-/
namespace Moderation.Regex
open Moderation.Unicode

inductive CharSet
  | empty
  | range (first last : Nat)
  | decimal
  | blank
  | word
  | spans (table : List Span)
  | union (a b : CharSet)
  | inter (a b : CharSet)
  | complement (a : CharSet)
  | folded (a : CharSet)
deriving DecidableEq, Repr

namespace CharSet

/-- Membership. A folded set has the letters that have a case variant in it. -/
def contains : CharSet → Char → Bool
  | empty, _ => false
  | range a b, c => decide (a ≤ c.toNat) && decide (c.toNat ≤ b)
  | decimal, c => isDecimal c
  | blank, c => isBlank c
  | word, c => isWord c
  | spans t, c => inSpans t c.toNat
  | union a b, c => a.contains c || b.contains c
  | inter a b, c => a.contains c && b.contains c
  | complement a, c => !a.contains c
  | folded a, c => (variants c.toNat).any fun v => a.contains (Char.ofNat v)

def single (c : Char) : CharSet := range c.toNat c.toNat

def all : CharSet := complement empty

def allButLineFeed : CharSet := complement (single '\n')

def diff (a b : CharSet) : CharSet := inter a (complement b)

def symmDiff (a b : CharSet) : CharSet := union (diff a b) (diff b a)

def unionAll : List CharSet → CharSet
  | [] => empty
  | [a] => a
  | a :: r => union a (unionAll r)

@[simp] theorem contains_single (c d : Char) : (single c).contains d = true ↔ d.toNat = c.toNat := by
  simp [single, contains]; omega

@[simp] theorem contains_all (c : Char) : all.contains c = true := by simp [all, contains]

@[simp] theorem contains_union (a b : CharSet) (c : Char) :
    (union a b).contains c = (a.contains c || b.contains c) := rfl

@[simp] theorem contains_complement (a : CharSet) (c : Char) :
    (complement a).contains c = !a.contains c := rfl

end CharSet

end Moderation.Regex
