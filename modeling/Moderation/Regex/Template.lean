import Moderation.Regex.Extended

/-!
Replacement templates: text in which a dollar sign refers to a group of the match by number or name.
-/
namespace Moderation.Regex
open Moderation.Unicode

inductive TemplatePart
  | literal (c : Char)
  | group (name : List Char)
deriving DecidableEq, Repr

def isTemplateNameChar (c : Char) : Bool := isAsciiAlphanumeric c || c == '_'

/-- A name after a dollar sign in the template of a plain pattern, and the text after it: anything
between braces, or as many letters, digits and underscores as there are. -/
def plainReference? (cs : List Char) : Option (List Char × List Char) :=
  match cs with
  | '{' :: r => cutAt ['}'] r
  | _ =>
    let name := cs.takeWhile isTemplateNameChar
    if name.isEmpty then none else some (name, cs.dropWhile isTemplateNameChar)

/-- A name after a dollar sign in the template of an extended pattern. -/
def extendedReference? (cs : List Char) : Option (List Char × List Char) :=
  (readId? ['{'] ['}'] cs).or (readId? [] [] cs)

/-- The parts of a template. A dollar sign that begins no reference stands for itself, and two stand
for one. -/
def templateParts (reference? : List Char → Option (List Char × List Char)) :
    (fuel : Nat) → List Char → List TemplatePart
  | 0, _ => []
  | _, [] => []
  | fuel + 1, '$' :: '$' :: r => .literal '$' :: templateParts reference? fuel r
  | fuel + 1, '$' :: r =>
    match reference? r with
    | some (name, after) => .group name :: templateParts reference? fuel after
    | none => .literal '$' :: templateParts reference? fuel r
  | fuel + 1, c :: r => .literal c :: templateParts reference? fuel r

/-- A number as templates write it; a plus sign may precede it. -/
def templateNumber? : List Char → Option Nat
  | '+' :: r => natOfDigits? r
  | cs => natOfDigits? cs

/-- The text of a group that took part in a match, or nothing. -/
def Cursor.groupText (m : Cursor) (i : Nat) : List Char :=
  let bounds := if i = 0 then some (m.first, m.index) else m.group? i
  match bounds with
  | some (a, b) => m.slice a b
  | none => []

/-- The group that a part refers to. Numbers come before names in plain patterns and names before
numbers in extended ones, but no name is a number in a plain pattern. -/
def TemplatePart.group? (names : List (String × Nat)) : TemplatePart → Option Nat
  | .literal _ => none
  | .group name => (names.lookup (.ofList name)).or (templateNumber? name)

/-- What a part stands for in a match. -/
def TemplatePart.expand (names : List (String × Nat)) (m : Cursor) : TemplatePart → List Char
  | .literal c => [c]
  | .group name =>
    match (TemplatePart.group name).group? names with
    | some i => m.groupText i
    | none => []

def partsOf (extended : Bool) (template : List Char) : List TemplatePart :=
  templateParts (if extended then extendedReference? else plainReference?) template.length template

def expandTemplate (extended : Bool) (names : List (String × Nat)) (template : List Char)
    (m : Cursor) : List Char :=
  (partsOf extended template).flatMap (·.expand names m)

/-- What a template stands for in a match; nothing if it takes the text of a match that ends before it
begins. -/
def expandTemplate? (extended : Bool) (names : List (String × Nat)) (template : List Char)
    (m : Cursor) : Option (List Char) :=
  if m.index < m.first ∧ some 0 ∈ (partsOf extended template).map (·.group? names) then none
  else some (expandTemplate extended names template m)

@[simp] theorem expandTemplate?_nil (extended : Bool) (names : List (String × Nat)) (m : Cursor) :
    expandTemplate? extended names [] m = some [] := by
  simp [expandTemplate?, expandTemplate, partsOf, templateParts]

end Moderation.Regex
