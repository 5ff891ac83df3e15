import Moderation.Number.Decimal
import Moderation.Number.Width
import Moderation.Tree.Basic

/-!
Trees written out in one line, with quotes around texts and brackets around lists and objects. A YAML
reader takes such a line for the same tree.
-/
namespace Moderation.Tree

/-- A character between quotes. Quotes, backslashes and control characters are escaped. -/
def renderChar (c : Char) : List Char :=
  match c with
  | '"' => ['\\', '"']
  | '\\' => ['\\', '\\']
  | '\n' => ['\\', 'n']
  | '\r' => ['\\', 'r']
  | '\t' => ['\\', 't']
  | '\x08' => ['\\', 'b']
  | '\x0c' => ['\\', 'f']
  | c =>
    if c.toNat < 32 then
      let ds := Nat.toDigits 16 c.toNat
      '\\' :: 'u' :: List.replicate (4 - ds.length) '0' ++ ds
    else [c]

def renderText (s : String) : List Char := '"' :: s.toList.flatMap renderChar ++ ['"']

/-- A number. A whole one beyond 64 bits has a point, as it is kept with a limited precision. -/
def renderNumber (mantissa : Int) (places : Nat) : List Char :=
  let sign := if mantissa < 0 then ['-'] else []
  let digits := Binary64.Decimal.toText ⟨mantissa.natAbs, -(places : Int)⟩
  let wide := places == 0 && !fitsEither 63 mantissa
  sign ++ digits ++ if wide then ['.', '0'] else []

def renderAtom : Atom → List Char
  | .null => "null".toList
  | .boolean b => (if b then "true" else "false").toList
  | .number mantissa places => renderNumber mantissa places

mutual

def renderChars : Tree → List Char
  | .atom a => renderAtom a
  | .text s => renderText s
  | .list items => '[' :: renderItems items ++ [']']
  | .object entries => '{' :: renderEntries entries ++ ['}']

def renderItems : List Tree → List Char
  | [] => []
  | [t] => renderChars t
  | t :: ts => renderChars t ++ ',' :: renderItems ts

def renderEntries : List (String × Tree) → List Char
  | [] => []
  | [(k, t)] => renderText k ++ ':' :: renderChars t
  | (k, t) :: es => renderText k ++ ':' :: renderChars t ++ ',' :: renderEntries es

end

def render (t : Tree) : String := .ofList t.renderChars

example : (object [("a", .list [.text "x\"y", .atom (.number 25 1)])]).render =
    "\x7b\"a\":[\"x\\\"y\",2.5]\x7d" := by
  decide +kernel

end Moderation.Tree
