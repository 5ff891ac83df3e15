import Moderation.Text.Basic
import Moderation.Text.Color
import Moderation.Number.Binary64
import Moderation.Regex.Compiled

/-!
How similar two texts are: the least number of single-character edits between their small forms,
against the length of the longer one.
-/
namespace Moderation.Filter
open Moderation.Unicode Moderation.Text

/-- The costs to the right of a first one. `row` holds the costs for the text without the character
`c`, and `left` is the cost before the characters ahead. -/
def nextCosts (c : Char) : (ahead : List Char) → (left : Nat) → (row : List Nat) → List Nat
  | b :: bs, left, diagonal :: above :: row =>
    let cost := if c = b then diagonal else 1 + min (min diagonal above) left
    cost :: nextCosts c bs cost (above :: row)
  | _, _, _ => []

def extendCosts (bs : List Char) (row : List Nat) (c : Char) : List Nat :=
  let first := row.headD 0 + 1
  first :: nextCosts c bs first row

/-- The costs of turning `as` into each beginning of `bs`, the shortest beginning first. -/
def costs (as bs : List Char) : List Nat :=
  as.foldl (extendCosts bs) (List.range (bs.length + 1))

/-- The least number of insertions, deletions and substitutions that turn one text into the other. -/
def distance (as bs : List Char) : Nat := (costs as bs).getLastD 0

/-- The distance between the small forms of two texts. -/
def editDistance (a b : String) : Nat := distance (lowerText a.toList) (lowerText b.toList)

/-- A number rounded to an integer, a half away from zero. -/
def nearestInteger (x : Binary64) : Nat :=
  let (num, den) := x.magnitude
  Binary64.roundUp num den

/-- The share of `part` in `whole` in percent. The share is a number of 53 digits, and so is its
hundredfold, before the percentage is rounded. -/
def percentage (part whole : Nat) : Nat :=
  let (num, den) := (Binary64.ofRatio false part whole).magnitude
  nearestInteger (.ofRatio false (100 * num) den)

/-- The similarity of two texts in percent; empty texts are alike. -/
def similarity (a b : String) : Nat :=
  let longest := max a.toList.length b.toList.length
  if longest = 0 then 100 else percentage (longest - min (editDistance a b) longest) longest

/-- The pattern for a block of so many characters with the same block at least twice ahead. -/
def triplePattern (size : Nat) : List Char := '(' :: .replicate size '.' ++ ")(?=\\1\\1+)".toList

/-- A text without the matches of the pattern for a block; `none` if the search is given up. `budget`
is what a search may spend on going back. -/
def pass? (budget size : Nat) (cs : List Char) : Option (List Char) :=
  (Regex.compile? {} budget (triplePattern size)).bind fun re => (re.replaceAll [] cs).result.value?

/-- What a search in a pass may spend on going back. -/
def passBudget : Nat := 1000000

/-- A text after a pass; it stays as it is if the search is given up. -/
def pass (size : Nat) (cs : List Char) : List Char := (pass? passBudget size cs).getD cs

/-- A text in which runs of equal blocks of one, two and three characters are shortened. -/
def shortened (cs : List Char) : List Char := [1, 2, 3].foldl (fun cs size => pass size cs) cs

/-- Letters and digits of ASCII, and blanks. -/
def isOrdinary (c : Char) : Bool := isAsciiAlphanumeric c || isBlank c

def prepare (special duplicate : Bool) (text : String) : String :=
  let cs := text.toList
  let cs := if special then cs.filter isOrdinary else cs
  let cs := if duplicate then shortened cs else cs
  .ofList (Color.strip (lowerText cs))

/-- A text in which equal neighbours are one character. -/
def collapse : List Char → List Char
  | a :: b :: r => if a = b then collapse (b :: r) else a :: collapse (b :: r)
  | cs => cs

def stripDuplicate (text : String) : String := .ofList (collapse text.toList)

@[simp] theorem distance_nil_left (bs : List Char) : distance [] bs = bs.length := by
  simp [distance, costs, List.getLastD_eq_getLast?, List.range_succ]

example : distance "kitten".toList "sitting".toList = 3 := by decide +kernel
example : percentage 23 40 = 57 := by decide +kernel

end Moderation.Filter
