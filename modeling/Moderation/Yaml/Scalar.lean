import Moderation.Yaml.Token
import Moderation.Number.Decimal
import Moderation.Number.Width

/-!
What plain scalars stand for: nothing, a truth value, a number, or their own text.
-/
namespace Moderation.Yaml
open Moderation.Unicode

def isNull (text : String) : Bool := ["null", "Null", "NULL", "~"].contains text

/-- The words for truth values; words such as `yes` are texts. -/
def boolean? (text : String) : Option Bool :=
  if ["true", "True", "TRUE"].contains text then some true
  else if ["false", "False", "FALSE"].contains text then some false
  else none

/-- Digits of a base as a number; there must be at least one, and no other character. -/
def natural? (base : Nat) (cs : List Char) : Option Nat :=
  let digit (c : Char) : Nat := if isAsciiAlphanumeric c then Unicode.Span.hexValue c else 36
  let valid (c : Char) : Bool :=
    (isAsciiDigit c || ('a' ≤ c.toLower && c.toLower ≤ 'f')) && digit c < base
  if cs.isEmpty || !cs.all valid then none
  else some (cs.foldl (fun n c => base * n + digit c) 0)

def withoutPlus : List Char → List Char
  | '+' :: r => r
  | cs => cs

/-- Digits after a zero, with or without a sign: a text and not a number. -/
def isPadded (cs : List Char) : Bool :=
  match (match cs with | '-' :: r => r | cs => withoutPlus cs) with
  | '0' :: d :: r => (d :: r).all isAsciiDigit
  | _ => false

/-- An integer of any size without a minus sign: a plus sign if wanted, and digits of base ten, or of
another base after its mark. -/
def positive? (cs : List Char) : Option Nat :=
  match withoutPlus cs with
  | '0' :: 'x' :: r => natural? 16 r
  | '0' :: 'o' :: r => natural? 8 r
  | '0' :: 'b' :: r => natural? 2 r
  | r => if isPadded cs then none else natural? 10 r

def integer? (cs : List Char) : Option Int :=
  match cs with
  | '-' :: '0' :: 'x' :: r => (natural? 16 r).map fun n => -(n : Int)
  | '-' :: '0' :: 'o' :: r => (natural? 8 r).map fun n => -(n : Int)
  | '-' :: '0' :: 'b' :: r => (natural? 2 r).map fun n => -(n : Int)
  | '-' :: r => if isPadded cs then none else (natural? 10 r).map fun n => -(n : Int)
  | _ => (positive? cs).map Int.ofNat

/-- A number that is no integer, or the words for infinity and for no number. -/
def float? (cs : List Char) : Option Binary64 :=
  let word := String.ofList cs
  let signless := withoutPlus cs
  if [".inf", ".Inf", ".INF"].contains (String.ofList signless) then some (.infinite false)
  else if ["-.inf", "-.Inf", "-.INF"].contains word then some (.infinite true)
  else if [".nan", ".NaN", ".NAN"].contains word then some .nan
  else if signless ≠ cs && (signless.head? == some '+' || signless.head? == some '-') then none
  else match Binary64.ofText? signless with
    | some (.finite negative m e) => some (.finite negative m e)
    | _ => none

/-- What a scalar stands for. An integer that is beyond 64 bits but within 128 stands for nothing
that can be used. -/
inductive Meaning
  | null
  | boolean (b : Bool)
  | number (x : Binary64)
  | text (s : String)
  | beyond
deriving DecidableEq, Repr

/-- An integer as a meaning, unless it is beyond 128 bits. -/
def Meaning.ofInteger? (n : Int) : Option Meaning :=
  if fitsEither 63 n then some (.number (.ofInt n))
  else if fitsEither 127 n then some .beyond
  else none

def Meaning.ofPlain (text : String) : Meaning :=
  let cs := text.toList
  if cs.isEmpty || isNull text then .null
  else match boolean? text with
    | some b => .boolean b
    | none =>
      match (integer? cs).bind ofInteger? with
      | some m => m
      | none =>
        match if isPadded cs then none else float? cs with
        | some x => .number x
        | none => .text text

def boolTag : String := "tag:yaml.org,2002:bool"

def intTag : String := "tag:yaml.org,2002:int"

def floatTag : String := "tag:yaml.org,2002:float"

def nullTag : String := "tag:yaml.org,2002:null"

/-- What a scalar stands for. A tag of a kind requires that kind, a tag that begins with an
exclamation mark says nothing about it, and every other tag makes a text. -/
def Meaning.ofScalar? (tag : Option String) (style : Style) (text : String) : Option Meaning :=
  let untagged := if style = .plain then ofPlain text else .text text
  match tag with
  | none => some untagged
  | some t =>
    if t = boolTag then (boolean? text).map .boolean
    else if t = intTag then (integer? text.toList).bind ofInteger?
    else if t = floatTag then (float? text.toList).map .number
    else if t = nullTag then if isNull text then some .null else none
    else if t.toList.head? = some '!' then some untagged
    else some (.text text)

example : Meaning.ofPlain "0x10" = .number (.ofNat 16) := by decide +kernel
example : Meaning.ofPlain "012" = .text "012" := by decide +kernel
example : Meaning.ofPlain "1_000" = .text "1_000" := by decide +kernel
example : Meaning.ofPlain "yes" = .text "yes" := by decide +kernel
example : Meaning.ofPlain "18446744073709551616" = .beyond := by decide +kernel

end Moderation.Yaml
