import Moderation.Unicode.CaseTable
import Moderation.Unicode.Property

/-!
Small and capital forms of characters and texts. A character may have a form of several characters,
and a capital sigma has another small form at the end of a word.
-/
namespace Moderation.Unicode

def lower (c : Char) : List Char :=
  if c.toNat < 128 then [c.toLower]
  else if c = 'İ' then ['i', '\u0307']
  else match Shift.lookup Shift.toLower c.toNat with
    | some n => [Char.ofNat n]
    | none => [c]

def upper (c : Char) : List Char :=
  if c.toNat < 128 then [c.toUpper]
  else match upperSequences.lookup c.toNat with
    | some ns => ns.map Char.ofNat
    | none =>
      match Shift.lookup Shift.toUpper c.toNat with
      | some n => [Char.ofNat n]
      | none => [c]

def isCased (c : Char) : Bool := inSpans Property.cased c.toNat

/-- A character that is passed over when the letters around a sigma are looked at. -/
def isCaseIgnorable (c : Char) : Bool := inSpans Property.caseIgnorable c.toNat

/-- Whether the first character that is not passed over is a cased letter. -/
def meetsCased : List Char → Bool
  | [] => false
  | c :: r => if isCaseIgnorable c then meetsCased r else isCased c

/-- The small form of `rest` after the characters of `before`, the nearest first. A capital sigma
becomes a final one exactly if a letter goes before it and none follows. -/
def lowerAfter : (before rest : List Char) → List Char
  | _, [] => []
  | before, c :: rest =>
    (if c = 'Σ' then
      [if meetsCased before && !meetsCased rest then 'ς' else 'σ']
    else lower c) ++ lowerAfter (c :: before) rest

def lowerText (cs : List Char) : List Char := lowerAfter [] cs

@[simp] theorem lowerAfter_nil (before : List Char) : lowerAfter before [] = [] := by
  rw [lowerAfter]

@[simp] theorem lowerText_nil : lowerText [] = [] := lowerAfter_nil []

end Moderation.Unicode
