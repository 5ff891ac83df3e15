import Moderation.Regex.CharSet

/-!
The syntax of patterns, and positions in a text at which they are matched.
-/
namespace Moderation.Regex
open Moderation.Unicode

/-- What is asked of the characters on the two sides of a place: a word begins or ends, or neither,
or one side is no part of a word. -/
inductive Boundary
  | edge
  | noEdge
  | start
  | stop
  | startHalf
  | stopHalf
deriving DecidableEq, Repr

/-- A condition on a place between characters. -/
inductive Assertion
  | textStart
  | textEnd
  | lineStart (carriageReturns : Bool)
  | lineEnd (carriageReturns : Bool)
  | boundary (kind : Boundary) (ascii : Bool)
deriving DecidableEq, Repr

/-- A pattern. The nodes from `backref` on need a matcher that goes back. -/
inductive Node
  | empty
  | set (s : CharSet)
  | assertion (a : Assertion)
  | capture (index : Nat) (body : Node)
  | concat (a b : Node)
  | alt (a b : Node)
  | repeated (body : Node) (min : Nat) (max : Option Nat) (greedy : Bool)
  | backref (index : Nat)
  | look (back : Nat) (negative : Bool) (body : Node)
  | atomic (body : Node)
  | once (body : Node)
  | keepOut
  | searchStart
  | captured (index : Nat)
  | ifThen (condition yes no : Node)
deriving DecidableEq, Repr

def Node.sequence : List Node → Node
  | [] => .empty
  | n :: r => r.foldl .concat n

def Node.choice : List Node → Node
  | [] => .empty
  | [n] => n
  | n :: r => .alt n (choice r)

/-- A place in a text, with the characters before it, the nearest first, and the characters after
it; the places where groups begin and end, the newest first; where the match is said to begin; and
where the search began. -/
structure Cursor where
  before : List Char
  rest : List Char
  index : Nat
  slots : List (Nat × Nat)
  first : Nat
  origin : Nat

namespace Cursor

def start (text : List Char) : Cursor := ⟨[], text, 0, [], 0, 0⟩

def next? (c : Cursor) : Option (Char × Cursor) :=
  match c.rest with
  | [] => none
  | x :: r => some (x, { c with before := x :: c.before, rest := r, index := c.index + 1 })

/-- One character on, if there is one. -/
def forward (c : Cursor) : Cursor :=
  match c.next? with
  | some (_, d) => d
  | none => c

def advance : Nat → Cursor → Cursor
  | 0, c => c
  | n + 1, c => advance n c.forward

/-- `n` characters back, if there are as many. -/
def retreat? : Nat → Cursor → Option Cursor
  | 0, c => some c
  | n + 1, c =>
    match c.before with
    | [] => none
    | x :: b => retreat? n { c with before := b, rest := x :: c.rest, index := c.index - 1 }

def mark (c : Cursor) (slot : Nat) : Cursor := { c with slots := (slot, c.index) :: c.slots }

/-- The bounds of a group that has taken part. -/
def group? (c : Cursor) (i : Nat) : Option (Nat × Nat) :=
  match c.slots.lookup (2 * i), c.slots.lookup (2 * i + 1) with
  | some a, some b => some (a, b)
  | _, _ => none

/-- The text between two places at or before the cursor or after it. -/
def slice (c : Cursor) (a b : Nat) : List Char :=
  ((c.before.reverse ++ c.rest).drop a).take (b - a)

/-- A run of given characters after the cursor. -/
def skip? (c : Cursor) : List Char → Option Cursor
  | [] => some c
  | x :: xs =>
    match c.next? with
    | some (y, d) => if x = y then d.skip? xs else none
    | none => none

@[simp] theorem forward_index (c : Cursor) (x : Char) (r : List Char) (h : c.rest = x :: r) :
    c.forward.index = c.index + 1 := by simp [forward, next?, h]

@[simp] theorem mark_index (c : Cursor) (slot : Nat) : (c.mark slot).index = c.index := rfl
@[simp] theorem mark_rest (c : Cursor) (slot : Nat) : (c.mark slot).rest = c.rest := rfl
@[simp] theorem mark_before (c : Cursor) (slot : Nat) : (c.mark slot).before = c.before := rfl

end Cursor

def wordChar (ascii : Bool) (c : Char) : Bool :=
  if ascii then isAsciiAlphanumeric c || c == '_' else isWord c

def Assertion.holds (a : Assertion) (c : Cursor) : Bool :=
  match a with
  | textStart => c.before.isEmpty
  | textEnd => c.rest.isEmpty
  | lineStart false => c.before.isEmpty || c.before.head? == some '\n'
  | lineStart true =>
    c.before.isEmpty || c.before.head? == some '\n' ||
      (c.before.head? == some '\r' && c.rest.head? != some '\n')
  | lineEnd false => c.rest.isEmpty || c.rest.head? == some '\n'
  | lineEnd true =>
    c.rest.isEmpty || c.rest.head? == some '\r' ||
      (c.rest.head? == some '\n' && c.before.head? != some '\r')
  | boundary kind ascii =>
    let l := (c.before.head?.map (wordChar ascii)).getD false
    let r := (c.rest.head?.map (wordChar ascii)).getD false
    match kind with
    | .edge => l != r
    | .noEdge => l == r
    | .start => !l && r
    | .stop => l && !r
    | .startHalf => !l
    | .stopHalf => !r

end Moderation.Regex
