import Moderation.Text.Split
import Moderation.Unicode.Case

/-!
Operations on texts: case, trimming, splitting and replacing.
-/
namespace Moderation.Text
open Moderation.Unicode

def lowerCase (text : String) : String := .ofList (lowerText text.toList)

def upperCase (text : String) : String := .ofList (text.toList.flatMap upper)

/-- A text without the blanks at its ends. -/
def trimmed (text : String) : String := .ofList (trim text.toList)

/-- The parts of a text between the occurrences of a character. -/
def parts (sep : Char) (text : String) : List String :=
  (splitOn sep text.toList).map String.ofList

/-- The parts of a text between the occurrences of another one that is not empty. -/
def partsAround (sep text : String) : List String :=
  (splitOnText sep.toList text.toList).map String.ofList

def replace (old new text : String) : String :=
  .ofList (replaceText old.toList new.toList text.toList)

def after (start text : String) : Option String :=
  (after? start.toList text.toList).map String.ofList

def beginsWith (start text : String) : Bool := start.toList.isPrefixOf text.toList

/-- The parts of a text before and after its first blank between words. -/
def cutAtSpace (text : String) : Option (String × String) :=
  (cut ' ' text.toList).map fun (a, b) => (.ofList a, .ofList b)

/-- Equality up to the case of ASCII letters. -/
def sameLetters (a b : String) : Bool := equalIgnoringAsciiCase a.toList b.toList

def saysNone (text : String) : Bool := sameLetters text "none"

@[simp] theorem toList_trimmed (text : String) : (trimmed text).toList = trim text.toList := by
  simp [trimmed]

@[simp] theorem toList_replace (old new text : String) :
    (replace old new text).toList = replaceText old.toList new.toList text.toList := by
  simp [replace]

theorem after_eq_some_iff {start text rest : String} :
    after start text = some rest ↔ text = start ++ rest := by
  simp only [after, Option.map_eq_some_iff, after?_eq_some_iff]
  constructor
  · rintro ⟨cs, h, rfl⟩
    exact String.toList_injective (by simpa using h)
  · rintro rfl
    exact ⟨rest.toList, by simp, by simp⟩

theorem after_eq_none_iff {start text : String} :
    after start text = none ↔ ∀ rest, text ≠ start ++ rest := by
  simp only [Option.eq_none_iff_forall_ne_some, ne_eq, after_eq_some_iff]

theorem cutAtSpace_eq_some_iff {text a b : String} :
    cutAtSpace text = some (a, b) ↔ text = a ++ " " ++ b ∧ ' ' ∉ a.toList := by
  simp only [cutAtSpace, Option.map_eq_some_iff, Prod.mk.injEq, Prod.exists, cut_eq_some_iff]
  constructor
  · rintro ⟨x, y, ⟨h, hn⟩, rfl, rfl⟩
    exact ⟨String.toList_injective (by simpa using h), by simpa using hn⟩
  · rintro ⟨rfl, hn⟩
    exact ⟨a.toList, b.toList, ⟨by simp, hn⟩, by simp, by simp⟩

@[simp] theorem beginsWith_empty (text : String) : beginsWith "" text = true := by
  simp [beginsWith]

end Moderation.Text
