import Moderation.Unicode.General
import Moderation.Unicode.Property

/-!
Classes of characters: blanks, capital letters, digits and the characters of words. On ASCII each is
decided without a table.
-/
namespace Moderation.Unicode

/-- The code points with the property White_Space. -/
def blanks : List Span :=
  [⟨0x9, 0xD, 1⟩, ⟨0x20, 0x20, 1⟩, ⟨0x85, 0x85, 1⟩, ⟨0xA0, 0xA0, 1⟩, ⟨0x1680, 0x1680, 1⟩,
   ⟨0x2000, 0x200A, 1⟩, ⟨0x2028, 0x2029, 1⟩, ⟨0x202F, 0x202F, 1⟩, ⟨0x205F, 0x205F, 1⟩,
   ⟨0x3000, 0x3000, 1⟩]

def isBlank (c : Char) : Bool := inSpans blanks c.toNat

def isAsciiLetter (c : Char) : Bool :=
  ('a' ≤ c && c ≤ 'z') || ('A' ≤ c && c ≤ 'Z')

def isAsciiDigit (c : Char) : Bool := '0' ≤ c && c ≤ '9'

def isAsciiAlphanumeric (c : Char) : Bool := isAsciiLetter c || isAsciiDigit c

/-- A capital letter, or a sign that stands for one. -/
def isUpper (c : Char) : Bool :=
  if c.toNat < 128 then 'A' ≤ c && c ≤ 'Z' else inSpans Property.uppercase c.toNat

def isDecimal (c : Char) : Bool :=
  if c.toNat < 128 then isAsciiDigit c else inSpans General.decimalNumber c.toNat

def isAlphanumeric (c : Char) : Bool :=
  if c.toNat < 128 then isAsciiAlphanumeric c
  else inSpans Property.alphabetic c.toNat || inSpans General.decimalNumber c.toNat ||
    inSpans General.letterNumber c.toNat || inSpans General.otherNumber c.toNat

/-- A character that words are made of: letters, marks, digits, connectors and joiners. -/
def isWord (c : Char) : Bool :=
  if c.toNat < 128 then isAsciiAlphanumeric c || c == '_'
  else inSpans Property.alphabetic c.toNat || inSpans General.nonspacingMark c.toNat ||
    inSpans General.spacingMark c.toNat || inSpans General.enclosingMark c.toNat ||
    inSpans General.decimalNumber c.toNat || inSpans General.connectorPunctuation c.toNat ||
    c.toNat == 0x200C || c.toNat == 0x200D

/-- What counts as blank in core counts as blank here. -/
theorem isBlank_of_isWhitespace {c : Char} (h : c.isWhitespace = true) : isBlank c = true := by
  simp only [Char.isWhitespace, Bool.or_eq_true, decide_eq_true_eq] at h
  rcases h with ((rfl | rfl) | rfl) | rfl <;> rfl

end Moderation.Unicode
