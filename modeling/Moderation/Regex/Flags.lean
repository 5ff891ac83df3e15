import Moderation.Number.Width
import Moderation.Regex.Node

/-!
Switches that patterns set for what follows, and the state of a reader of patterns.
-/
namespace Moderation.Regex

structure Flags where
  ignoreCase : Bool := false
  multiLine : Bool := false
  dotAll : Bool := false
  swapGreed : Bool := false
  unicode : Bool := true
  carriageReturns : Bool := false
  ignoreSpace : Bool := false
deriving DecidableEq, Repr

def Flags.set? (f : Flags) (letter : Char) (on : Bool) : Option Flags :=
  match letter with
  | 'i' => some { f with ignoreCase := on }
  | 'm' => some { f with multiLine := on }
  | 's' => some { f with dotAll := on }
  | 'U' => some { f with swapGreed := on }
  | 'u' => some { f with unicode := on }
  | 'R' => some { f with carriageReturns := on }
  | 'x' => some { f with ignoreSpace := on }
  | _ => none

/-- A reader's state: the text ahead, the switches in force, the number of groups opened, their
names, and whether a group was referred to by its number. -/
structure Reading where
  ahead : List Char
  flags : Flags := {}
  groups : Nat := 0
  names : List (String × Nat) := []
  numbered : Bool := false
deriving Repr

/-- A reader of a part of a pattern; it fails on a pattern that is malformed. -/
abbrev Reader := StateT Reading Option

namespace Reader
open Moderation.Unicode

def ahead : Reader (List Char) := do return (← get).ahead

def flags : Reader Flags := do return (← get).flags

def goto (cs : List Char) : Reader Unit := modify ({ · with ahead := cs })

def setFlags (f : Flags) : Reader Unit := modify ({ · with flags := f })

def malformed {α : Type} : Reader α := fun _ => none

def ofOption {α : Type} : Option α → Reader α
  | some a => pure a
  | none => malformed

def openGroup : Reader Nat := do
  modify fun s => { s with groups := s.groups + 1 }
  return (← get).groups

/-- The next character, which must be the given one. -/
def expect (c : Char) : Reader Unit := do
  match ← ahead with
  | x :: r => if x = c then goto r else malformed
  | [] => malformed

/-- Text after blanks and comments up to the end of a line. -/
def afterSpace : (inComment : Bool) → List Char → List Char
  | _, [] => []
  | true, c :: r => afterSpace (c != '\n') r
  | false, c :: r =>
    if isBlank c then afterSpace false r
    else if c = '#' then afterSpace true r
    else c :: r

/-- Pass over blanks and comments where they do not count. -/
def skipSpace : Reader Unit := do
  if (← flags).ignoreSpace then goto (afterSpace false (← ahead))

/-- Pass over one character and what does not count after it. There must be something left. -/
def bumpOver (r : List Char) : Reader Unit := do
  goto r
  skipSpace
  if (← ahead).isEmpty then malformed

end Reader

def isHexDigit (c : Char) : Bool :=
  ('0' ≤ c && c ≤ '9') || ('a' ≤ c && c ≤ 'f') || ('A' ≤ c && c ≤ 'F')

def hexNumber (cs : List Char) : Nat :=
  cs.foldl (fun n c => 16 * n + Unicode.Span.hexValue c) 0

/-- A character by its number; numbers of half pairs and beyond the last plane have none. -/
def charOfNumber? (n : Nat) : Option Char :=
  if n.isValidChar then some (Char.ofNat n) else none

/-- A number of 32 bits in decimal digits. -/
def decimalNumber? (cs : List Char) : Option Nat :=
  if cs.isEmpty then none
  else
    let n := cs.foldl (fun n c => 10 * n + (c.toNat - '0'.toNat)) 0
    if fits 32 n then some n else none

end Moderation.Regex
