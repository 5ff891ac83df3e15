import Moderation.Regex.Flags
import Moderation.Regex.Property

/-!
Escapes and bracketed classes of plain patterns.
-/
namespace Moderation.Regex
open Moderation.Unicode Reader

/-- A set with the letters of either case if case does not count. -/
def Flags.fold (f : Flags) (s : CharSet) : CharSet :=
  if !f.ignoreCase then s
  else if f.unicode then .folded s
  else .inter (.folded s) (.range 0 127)

/-- What an escape stands for: one character, a set, or a condition. -/
inductive Escape
  | literal (c : Char)
  | set (s : CharSet)
  | condition (a : Assertion)

/-- Characters that mean something in patterns and mean themselves after a backslash. -/
def metaCharacters : List Char := "\\.+*?()|[]\x7b\x7d^$#&-~".toList

/-- Characters that a backslash may precede although they need none. -/
def isSuperfluous (c : Char) : Bool :=
  decide (c.toNat < 128) && !isAsciiAlphanumeric c && c != '<' && c != '>'

/-- The sets of digits, blanks and word characters, where a capital letter stands for the rest. -/
def namedSet (f : Flags) (letter : Char) : Option CharSet :=
  let plain := match letter.toLower with
    | 'd' => if f.unicode then .decimal else .range 48 57
    | 's' => if f.unicode then .blank else .union (.range 9 13) (.range 32 32)
    | _ =>
      if f.unicode then .word
      else .unionAll [.range 48 57, .range 65 90, .range 95 95, .range 97 122]
  if !letter.isUpper then some plain
  else if f.unicode then some (.complement plain)
  else none

def readHexBrace : (fuel : Nat) → List Char → Reader (List Char)
  | 0, _ => malformed
  | fuel + 1, digits => do
    skipSpace
    match ← ahead with
    | [] => malformed
    | '}' :: r => goto r; skipSpace; return digits
    | c :: r =>
      if isHexDigit c then goto r; readHexBrace fuel (digits ++ [c]) else malformed

def readHexDigits : Nat → List Char → Reader (List Char)
  | 0, digits => return digits
  | n + 1, digits => do
    match ← ahead with
    | c :: r =>
      if isHexDigit c then
        goto r
        skipSpace
        readHexDigits n (digits ++ [c])
      else malformed
    | [] => malformed

/-- A character by its number, after the letter that announces it. -/
def readHex (letter : Char) : Reader Char := do
  skipSpace
  match ← ahead with
  | '{' :: r =>
    goto r
    let ds ← readHexBrace (r.length + 1) []
    if ds.isEmpty then malformed else ofOption (charOfNumber? (hexNumber ds))
  | _ =>
    let ds ← readHexDigits (if letter = 'x' then 2 else if letter = 'u' then 4 else 8) []
    ofOption (charOfNumber? (hexNumber ds))

def readBraced : (fuel : Nat) → List Char → Reader (List Char)
  | 0, _ => malformed
  | fuel + 1, name => do
    skipSpace
    match ← ahead with
    | [] => malformed
    | '}' :: r => goto r; return name
    | c :: r => goto r; readBraced fuel (name ++ [c])

/-- Two parts of a text around the first place where a mark stands. -/
def cutAt (mark : List Char) : List Char → Option (List Char × List Char)
  | [] => none
  | c :: r =>
    if mark.isPrefixOf (c :: r) then some ([], (c :: r).drop mark.length)
    else (cutAt mark r).map fun (a, b) => (c :: a, b)

/-- A property by what stands between the braces, and whether it is negated there. -/
def propertyOfText (name : List Char) : Option (CharSet × Bool) :=
  match cutAt ['!', '='] name with
  | some (k, v) => (propertyValue? k v).map (·, true)
  | none =>
    match cutAt [':'] name with
    | some (k, v) => (propertyValue? k v).map (·, false)
    | none =>
      match cutAt ['='] name with
      | some (k, v) => (propertyValue? k v).map (·, false)
      | none => (property? name).map (·, false)

/-- A named property, after its letter. -/
def readProperty (negated : Bool) : Reader CharSet := do
  let f ← flags
  if !f.unicode then malformed
  skipSpace
  match ← ahead with
  | [] => malformed
  | '{' :: r =>
    goto r
    let name ← readBraced (r.length + 1) []
    let (s, negatedInside) ← ofOption (propertyOfText name)
    return if negated != negatedInside then .complement (f.fold s) else f.fold s
  | c :: r =>
    if c = '\\' then malformed
    else
      goto r
      skipSpace
      let s ← ofOption (property? [c])
      return if negated then .complement (f.fold s) else f.fold s

/-- The kind of word boundary that a name in braces asks for, after `\b`. Braces that hold something
else are left for a repetition. -/
def readBoundary : Reader (Option Boundary) := do
  let before ← ahead
  match before with
  | '{' :: r =>
    goto r
    skipSpace
    let isName (c : Char) := isAsciiLetter c || c == '-'
    match ← ahead with
    | [] => malformed
    | c :: _ =>
      if !isName c then goto before; return none
      else
        let name ← readBraced (r.length + 1) []
        match String.ofList name with
        | "start" => return some .start
        | "end" => return some .stop
        | "start-half" => return some .startHalf
        | "end-half" => return some .stopHalf
        | _ => malformed
  | _ => return none

def readEscape : Reader Escape := do
  let f ← flags
  match ← ahead with
  | [] => malformed
  | c :: r =>
    goto r
    let boundary (kind : Boundary) : Escape := .condition (.boundary kind (!f.unicode))
    if isAsciiDigit c then malformed
    else if c = 'x' ∨ c = 'u' ∨ c = 'U' then return .literal (← readHex c)
    else if c = 'p' ∨ c = 'P' then return .set (← readProperty (c = 'P'))
    else if ['d', 's', 'w', 'D', 'S', 'W'].contains c then
      return .set (← ofOption (namedSet f c))
    else if metaCharacters.contains c || isSuperfluous c then return .literal c
    else match c with
      | 'a' => return .literal '\x07'
      | 'f' => return .literal '\x0c'
      | 't' => return .literal '\t'
      | 'n' => return .literal '\n'
      | 'r' => return .literal '\r'
      | 'v' => return .literal '\x0b'
      | 'A' => return .condition .textStart
      | 'z' => return .condition .textEnd
      | 'b' => return boundary ((← readBoundary).getD .edge)
      | 'B' => return boundary .noEdge
      | '<' => return boundary .start
      | '>' => return boundary .stop
      | _ => malformed

def asciiClass? (name : String) : Option CharSet :=
  let digit := CharSet.range 48 57
  let upper := CharSet.range 65 90
  let lower := CharSet.range 97 122
  match name with
  | "alnum" => some (.unionAll [digit, upper, lower])
  | "alpha" => some (.union upper lower)
  | "ascii" => some (.range 0 127)
  | "blank" => some (.union (.range 9 9) (.range 32 32))
  | "cntrl" => some (.union (.range 0 31) (.range 127 127))
  | "digit" => some digit
  | "graph" => some (.range 33 126)
  | "lower" => some lower
  | "print" => some (.range 32 126)
  | "punct" => some (.unionAll [.range 33 47, .range 58 64, .range 91 96, .range 123 126])
  | "space" => some (.union (.range 9 13) (.range 32 32))
  | "upper" => some upper
  | "word" => some (.unionAll [digit, upper, .range 95 95, lower])
  | "xdigit" => some (.unionAll [digit, .range 65 70, .range 97 102])
  | _ => none

/-- A class named by brackets and colons at the start of a text, and the text after it. -/
def asciiClassAhead? (cs : List Char) : Option (CharSet × Bool × List Char) :=
  match cs with
  | '[' :: ':' :: r =>
    let (negated, r) := match r with
      | '^' :: r => (true, r)
      | r => (false, r)
    match cutAt [':'] r with
    | some (name, ']' :: after) =>
      (asciiClass? (.ofList name)).map fun s => (s, negated, after)
    | _ => none
  | _ => none

/-- One end of a range, or a set that can be no end of one. -/
def readClassItem : Reader Escape := do
  match ← ahead with
  | [] => malformed
  | '\\' :: r => goto r; readEscape
  | c :: r => goto r; return .literal c

/-- The next character but one, blanks passed over where they do not count. -/
def peekSpace (f : Flags) (r : List Char) : Option Char :=
  (if f.ignoreSpace then afterSpace false r else r).head?

/-- A character, a range of characters, or a set inside brackets. -/
def readClassRange : Reader CharSet := do
  let f ← flags
  let first ← readClassItem
  skipSpace
  let alone : Reader CharSet := match first with
    | .literal c => return f.fold (.single c)
    | .set s => return s
    | .condition _ => malformed
  match ← ahead with
  | [] => malformed
  | '-' :: r =>
    if peekSpace f r = some ']' ∨ peekSpace f r = some '-' then alone
    else
      bumpOver r
      let last ← readClassItem
      match first, last with
      | .literal a, .literal b =>
        if a.toNat ≤ b.toNat then return f.fold (.range a.toNat b.toNat) else malformed
      | _, _ => malformed
  | _ => alone

/-- How two sets inside brackets are combined. -/
inductive ClassOperation
  | inter
  | diff
  | symmDiff

def ClassOperation.apply : ClassOperation → CharSet → CharSet → CharSet
  | inter, a, b => .inter a b
  | diff, a, b => a.diff b
  | symmDiff, a, b => a.symmDiff b

/-- The set before an operation combined with the one after it. -/
def closeOperation (pending : Option (CharSet × ClassOperation)) (items : CharSet) : CharSet :=
  match pending with
  | some (left, o) => o.apply left items
  | none => items

mutual

def readClass : (fuel : Nat) → Reader CharSet
  | 0 => malformed
  | fuel + 1 => do
    skipSpace
    let negated ← match ← ahead with
      | '^' :: r => do bumpOver r; pure true
      | _ => pure false
    let f ← flags
    let cs ← ahead
    let dashes := if f.ignoreSpace then 0 else (cs.takeWhile (· == '-')).length
    goto (cs.drop dashes)
    let items ← match ← ahead with
      | ']' :: r =>
        if dashes = 0 then do goto r; pure (CharSet.single ']') else pure .empty
      | _ => pure .empty
    let items := if dashes = 0 then items else .union items (.single '-')
    let s ← readClassItems fuel none items
    return if negated then .complement s else s

def readClassItems : (fuel : Nat) → Option (CharSet × ClassOperation) → CharSet → Reader CharSet
  | 0, _, _ => malformed
  | fuel + 1, pending, items => do
    skipSpace
    let cs ← ahead
    match asciiClassAhead? cs with
    | some (s, negated, r) =>
      goto r
      let s := (← flags).fold s
      readClassItems fuel pending (.union items (if negated then .complement s else s))
    | none =>
      match cs with
      | [] => malformed
      | '[' :: r =>
        goto r
        let s ← readClass fuel
        readClassItems fuel pending (.union items s)
      | ']' :: r => goto r; return closeOperation pending items
      | '&' :: '&' :: r =>
        goto r; readClassItems fuel (some (closeOperation pending items, .inter)) .empty
      | '-' :: '-' :: r =>
        goto r; readClassItems fuel (some (closeOperation pending items, .diff)) .empty
      | '~' :: '~' :: r =>
        goto r; readClassItems fuel (some (closeOperation pending items, .symmDiff)) .empty
      | _ => readClassItems fuel pending (.union items (← readClassRange))

end

end Moderation.Regex
