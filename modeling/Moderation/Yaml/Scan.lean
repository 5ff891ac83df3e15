import Moderation.Yaml.Token
import Moderation.Unicode.Span

/-!
From the characters of a YAML text to its tokens. Indentation opens and closes blocks, and a key that
is not announced is found when the colon after it is met, so that tokens are put in before it.
-/
namespace Moderation.Yaml

/-- A place where a key may have begun. It is required where nothing else may stand, and `token` is
the number of the token that the key would begin with. -/
structure KeyPlace where
  required : Bool
  token : Nat
  index : Nat
  line : Nat
  column : Nat
deriving Repr

/-- The state of a scan: the characters ahead and their place; the column of the block that is open,
and those of the blocks around it; whether an unannounced key may begin here; the place where one may
have begun, for each level of brackets, the innermost first; and the tokens so far. -/
structure Scan where
  ahead : List Char
  index : Nat := 0
  line : Nat := 0
  column : Nat := 0
  indent : Int := -1
  outer : List Int := []
  keyAllowed : Bool := true
  keys : List (Option KeyPlace) := [none]
  tokens : Array Token := #[]

/-- A step of a scan; it fails on a text that is malformed. -/
abbrev Scanner := StateT Scan Option

namespace Scanner

def malformed {α : Type} : Scanner α := fun _ => none

def ahead : Scanner (List Char) := do return (← get).ahead

def inFlow : Scanner Bool := do return (← get).keys.length > 1

def skip : Scanner Unit := modify fun s =>
  match s.ahead with
  | [] => s
  | _ :: r => { s with ahead := r, index := s.index + 1, column := s.column + 1 }

def skipMany : Nat → Scanner Unit
  | 0 => pure ()
  | n + 1 => do skip; skipMany n

/-- Pass over the end of a line, and give it in its common form. -/
def takeBreak : Scanner (List Char) := do
  let s ← get
  let go (text : List Char) (n : Nat) (r : List Char) : Scanner (List Char) := do
    set { s with ahead := r, index := s.index + n, line := s.line + 1, column := 0 }
    return text
  match s.ahead with
  | '\r' :: '\n' :: r => go ['\n'] 2 r
  | c :: r =>
    if c = '\u2028' ∨ c = '\u2029' then go [c] 1 r
    else if isBreak c then go ['\n'] 1 r
    else return []
  | [] => return []

def takeWhile (p : Char → Bool) : Scanner (List Char) := do
  let taken := (← ahead).takeWhile p
  skipMany taken.length
  return taken

def emit (t : Token) : Scanner Unit := modify fun s => { s with tokens := s.tokens.push t }

def insertAt (n : Nat) (t : Token) : Scanner Unit := modify fun s =>
  { s with tokens := s.tokens.extract 0 n ++ #[t] ++ s.tokens.extract n s.tokens.size }

def allowKey (b : Bool) : Scanner Unit := modify ({ · with keyAllowed := b })

/-- Open a block at a column to the right of the one that is open. -/
def openBlock (column : Nat) (place : Option Nat) (t : Token) : Scanner Unit := do
  let s ← get
  if !(← inFlow) && s.indent < column then
    set { s with outer := s.indent :: s.outer, indent := column }
    match place with
    | some n => insertAt n t
    | none => emit t

/-- Close the blocks to the right of a column, of at most `fuel` ones. -/
def closeBlocks : (fuel : Nat) → Int → Scanner Unit
  | 0, _ => pure ()
  | fuel + 1, column => do
    let s ← get
    if !(← inFlow) && s.indent > column then
      match s.outer with
      | i :: r =>
        set { s with indent := i, outer := r }
        emit .blockEnd
        closeBlocks fuel column
      | [] => pure ()

def closeTo (column : Int) : Scanner Unit := do
  closeBlocks ((← get).outer.length + 1) column

/-- Give up the place of a key in the innermost brackets. -/
def dropKey : Scanner Unit := do
  let s ← get
  match s.keys with
  | some k :: r => if k.required then malformed else set { s with keys := none :: r }
  | _ => pure ()

/-- Remember that a key may begin here. -/
def saveKey : Scanner Unit := do
  if (← get).keyAllowed then
    dropKey
    let s ← get
    let place : KeyPlace :=
      { required := s.keys.length ≤ 1 && s.indent == s.column
        token := s.tokens.size
        index := s.index, line := s.line, column := s.column }
    set { s with keys := some place :: s.keys.drop 1 }

/-- Give up the places of keys that are on another line or too far back. -/
def dropStaleKeys : Scanner Unit := do
  let s ← get
  let stale (k : KeyPlace) : Bool := k.line < s.line || k.index + 1024 < s.index
  if s.keys.any (Option.any fun k => stale k && k.required) then malformed
  else set { s with keys := s.keys.map (Option.filter fun k => !stale k) }

/-- Pass over gaps, comments and line ends before a token. -/
def skipToToken : (fuel : Nat) → Scanner Unit
  | 0 => pure ()
  | fuel + 1 => do
    let s ← get
    let flow ← inFlow
    if s.index = 0 ∧ s.ahead.head? = some '\uFEFF' then skip
    let _ ← takeWhile fun c => c == ' ' || (c == '\t' && (flow || !s.keyAllowed))
    if (← ahead).head? = some '#' then
      let _ ← takeWhile fun c => !isBreak c
    match ← ahead with
    | [] => pure ()
    | c :: _ =>
      if isBreak c then
        let _ ← takeBreak
        if !flow then allowKey true
        skipToToken fuel

/-- The part of the name of a tag that comes after its handle, or between angle brackets. -/
def takeAddress (inBrackets : Bool) (head : List Char) : Scanner (List Char) := do
  let isAddressChar (c : Char) : Bool :=
    isNameChar c || ";/?:@&=+$.!~*'()%".toList.contains c || (inBrackets && ",[]".toList.contains c)
  let taken ← takeWhile isAddressChar
  if taken.isEmpty && head.isEmpty then malformed
  else return head.drop 1 ++ taken

def scanTag : Scanner Unit := do
  match ← ahead with
  | '!' :: '<' :: _ =>
    skipMany 2
    let address ← takeAddress true []
    if (← ahead).head? = some '>' then
      skip
      emit (.tag "" (.ofList address))
    else malformed
  | _ =>
    skip
    let name ← takeWhile isNameChar
    if (← ahead).head? = some '!' then
      skip
      emit (.tag (.ofList ('!' :: name ++ ['!'])) (.ofList (← takeAddress false [])))
    else
      let suffix ← takeAddress false ('!' :: name)
      if suffix.isEmpty then emit (.tag "" "!") else emit (.tag "!" (.ofList suffix))
  let cs ← ahead
  if !gapAhead cs && !((← inFlow) && cs.head? == some ',') then malformed

/-- The name of a node, after its sign. -/
def scanName (make : String → Token) : Scanner Unit := do
  skip
  let name ← takeWhile isNameChar
  let cs ← ahead
  if name.isEmpty || !(gapAhead cs || atEndOr (fun c => "?:,]\x7d%@\x60".toList.contains c) cs) then
    malformed
  else emit (make (.ofList name))

def takeNumber : Scanner Nat := do
  let ds ← takeWhile fun c => '0' ≤ c && c ≤ '9'
  if ds.isEmpty || ds.length > 9 then malformed
  else return ds.foldl (fun n c => 10 * n + (c.toNat - '0'.toNat)) 0

/-- A directive, a line that begins with a percent sign. -/
def scanDirective : Scanner Unit := do
  skip
  let name ← takeWhile isNameChar
  if name.isEmpty || !gapAhead (← ahead) then malformed
  let _ ← takeWhile isGap
  match String.ofList name with
  | "YAML" =>
    let major ← takeNumber
    if (← ahead).head? = some '.' then
      skip
      emit (.versionDirective major (← takeNumber))
    else malformed
  | "TAG" =>
    if (← ahead).head? ≠ some '!' then malformed
    skip
    let handle ← takeWhile isNameChar
    let closed := (← ahead).head? = some '!'
    if closed then skip
    if !closed && !handle.isEmpty then malformed
    if !(← ahead).head?.any isGap then malformed
    let _ ← takeWhile isGap
    let address ← takeAddress true []
    if !gapAhead (← ahead) then malformed
    emit (.tagDirective (.ofList ('!' :: handle ++ if closed then ['!'] else []))
      (.ofList address))
  | _ => malformed
  let _ ← takeWhile isGap
  if (← ahead).head? = some '#' then
    let _ ← takeWhile fun c => !isBreak c
  if atEndOr isBreak (← ahead) then
    let _ ← takeBreak
  else malformed

/-- The spaces and line ends before a line of a block scalar. An indentation of zero is one still to
be found: it is that of the first line with text, and to the right of the block around. -/
def takeIndentation : (fuel : Nat) → (indent widest : Nat) → (breaks : List Char) →
    Scanner (Nat × List Char)
  | 0, indent, _, breaks => return (indent, breaks)
  | fuel + 1, indent, widest, breaks => do
    let s ← get
    let _ ← takeSpaces (s.ahead.length + 1) indent
    let s ← get
    let widest := max widest s.column
    if (indent = 0 ∨ s.column < indent) ∧ s.ahead.head? = some '\t' then malformed
    match s.ahead with
    | c :: _ =>
      if isBreak c then
        let b ← takeBreak
        takeIndentation fuel indent widest (breaks ++ b)
      else return (found indent widest s.indent, breaks)
    | [] => return (found indent widest s.indent, breaks)
where
  /-- Pass over spaces up to an indentation. -/
  takeSpaces : Nat → Nat → Scanner Unit
    | 0, _ => pure ()
    | fuel + 1, indent => do
      let s ← get
      if (indent = 0 ∨ s.column < indent) ∧ s.ahead.head? = some ' ' then
        skip
        takeSpaces fuel indent
  /-- The indentation given, or the one that was found. -/
  found (indent widest : Nat) (block : Int) : Nat :=
    if indent = 0 then max (max widest (block + 1).toNat) 1 else indent

/-- The lines of a block scalar, as long as they stand at the indentation. `pending` is the end of
the line before and `breaks` the ends of the empty lines after it; `spaced` says that the line before
began with a gap, in which case it is not folded. -/
def takeLines (literal : Bool) : (fuel : Nat) → (indent : Nat) → (text pending breaks : List Char) →
    (spaced : Bool) → Scanner (List Char × List Char × List Char)
  | 0, _, text, pending, breaks, _ => return (text, pending, breaks)
  | fuel + 1, indent, text, pending, breaks, spaced => do
    let s ← get
    if s.column ≠ indent ∨ s.ahead.isEmpty then return (text, pending, breaks)
    else
      let begins := s.ahead.head?.any isGap
      let folds := !literal && pending.head? == some '\n' && !spaced && !begins
      let joint := if folds then if breaks.isEmpty then [' '] else [] else pending
      let line ← takeWhile fun c => !isBreak c
      let pending ← takeBreak
      let (_, more) ← takeIndentation ((← ahead).length + 1) indent 0 []
      takeLines literal fuel indent (text ++ joint ++ breaks ++ line) pending more begins

def scanBlockScalar (literal : Bool) : Scanner Unit := do
  skip
  let isSign (c : Char) : Bool := c == '+' || c == '-'
  let isDigit (c : Char) : Bool := '0' ≤ c && c ≤ '9'
  let takeIf (p : Char → Bool) : Scanner (Option Char) := do
    match (← ahead).head? with
    | some c => if p c then do skip; return some c else return none
    | none => return none
  let sign ← takeIf isSign
  let digit ← takeIf isDigit
  let sign ← if sign.isNone && digit.isSome then takeIf isSign else pure sign
  if digit = some '0' then malformed
  let _ ← takeWhile isGap
  if (← ahead).head? = some '#' then
    let _ ← takeWhile fun c => !isBreak c
  if !atEndOr isBreak (← ahead) then malformed
  let _ ← takeBreak
  let s ← get
  let given := match digit with
    | some d => (max s.indent 0).toNat + (d.toNat - '0'.toNat)
    | none => 0
  let fuel := s.ahead.length + 1
  let (indent, breaks) ← takeIndentation fuel given 0 []
  let (text, pending, breaks) ← takeLines literal fuel indent [] [] breaks false
  let text := if sign = some '-' then text else text ++ pending
  let text := if sign = some '+' then text ++ breaks else text
  emit (.scalar (if literal then .literal else .folded) (.ofList text))

/-- What the gaps and line ends between two runs of a folded text come to: a line end alone is a
blank, and of several the first is dropped. -/
def fold (gaps first more : List Char) (broken : Bool) : List Char :=
  if !broken then gaps
  else if first.head? = some '\n' then if more.isEmpty then [' '] else more
  else first ++ more

/-- The gaps and line ends after a run of a quoted text: gaps before the first line end, that line
end, those after it, and whether there was one. -/
def takeGaps : (fuel : Nat) → (gaps first more : List Char) → (broken : Bool) →
    Scanner (List Char × List Char × List Char × Bool)
  | 0, gaps, first, more, broken => return (gaps, first, more, broken)
  | fuel + 1, gaps, first, more, broken => do
    match ← ahead with
    | [] => return (gaps, first, more, broken)
    | c :: _ =>
      if isGap c then
        skip
        takeGaps fuel (if broken then gaps else gaps ++ [c]) first more broken
      else if isBreak c then
        let b ← takeBreak
        if broken then takeGaps fuel gaps first (more ++ b) true
        else takeGaps fuel [] b more true
      else return (gaps, first, more, broken)

/-- A number of hexadecimal digits as a character. -/
def takeCode (n : Nat) : Scanner Char := do
  let isHex (c : Char) : Bool :=
    ('0' ≤ c && c ≤ '9') || ('a' ≤ c && c ≤ 'f') || ('A' ≤ c && c ≤ 'F')
  let ds := (← ahead).take n
  if ds.length < n || !ds.all isHex then malformed
  else
    let v := ds.foldl (fun m c => 16 * m + Unicode.Span.hexValue c) 0
    if v.isValidChar then
      skipMany n
      return Char.ofNat v
    else malformed

/-- The characters that letters after a backslash stand for. -/
def escapes : List (Char × Char) :=
  [('0', '\x00'), ('a', '\x07'), ('b', '\x08'), ('t', '\t'), ('\t', '\t'), ('n', '\n'),
   ('v', '\x0b'), ('f', '\x0c'), ('r', '\r'), ('e', '\x1b'), (' ', ' '), ('"', '"'), ('/', '/'),
   ('\\', '\\'), ('N', '\u0085'), ('_', '\u00a0'), ('L', '\u2028'), ('P', '\u2029')]

/-- A run of a quoted text up to a gap, a line end or the closing quote, and whether it ends in an
escaped line end. -/
def takeQuotedRun (single : Bool) : (fuel : Nat) → (text : List Char) → Scanner (List Char × Bool)
  | 0, text => return (text, false)
  | fuel + 1, text => do
    match ← ahead with
    | [] => return (text, false)
    | '\'' :: r =>
      if !single then
        skip
        takeQuotedRun single fuel (text ++ ['\''])
      else if r.head? = some '\'' then
        skipMany 2
        takeQuotedRun single fuel (text ++ ['\''])
      else return (text, false)
    | '"' :: _ =>
      if single then
        skip
        takeQuotedRun single fuel (text ++ ['"'])
      else return (text, false)
    | '\\' :: r =>
      if single then
        skip
        takeQuotedRun single fuel (text ++ ['\\'])
      else match r with
        | [] => malformed
        | c :: _ =>
          skip
          if isBreak c then
            let _ ← takeBreak
            return (text, true)
          else
            skip
            let d ← match c with
              | 'x' => takeCode 2
              | 'u' => takeCode 4
              | 'U' => takeCode 8
              | _ => match escapes.lookup c with
                | some d => pure d
                | none => malformed
            takeQuotedRun single fuel (text ++ [d])
    | c :: _ =>
      if isGap c || isBreak c then return (text, false)
      else
        skip
        takeQuotedRun single fuel (text ++ [c])

/-- A quoted text from one of its runs on. -/
def takeQuoted (single : Bool) : (fuel : Nat) → (text : List Char) → Scanner (List Char)
  | 0, _ => malformed
  | fuel + 1, text => do
    let s ← get
    if s.column = 0 ∧ (markAhead '-' s.ahead ∨ markAhead '.' s.ahead) then malformed
    else if s.ahead.isEmpty then malformed
    else
      let n := s.ahead.length + 1
      let (text, broken) ← takeQuotedRun single n text
      if (← ahead).head? = some (if single then '\'' else '"') then
        skip
        return text
      else
        let (gaps, first, more, broken) ← takeGaps n [] [] [] broken
        takeQuoted single fuel (text ++ fold gaps first more broken)

def scanQuoted (single : Bool) : Scanner Unit := do
  skip
  let text ← takeQuoted single ((← ahead).length + 1) []
  emit (.scalar .quoted (.ofList text))

/-- A run of a plain text up to a gap, a line end or a sign that ends it. -/
def takePlainRun (flow : Bool) : (fuel : Nat) → (text : List Char) → Scanner (List Char)
  | 0, text => return text
  | fuel + 1, text => do
    match ← ahead with
    | [] => return text
    | c :: r =>
      if isGap c || isBreak c then return text
      else if flow && c == ':' && r.head?.any (",?[]\x7b\x7d".toList.contains ·) then malformed
      else if c == ':' && gapAhead r then return text
      else if flow && ",[]\x7b\x7d".toList.contains c then return text
      else
        skip
        takePlainRun flow fuel (text ++ [c])

/-- A plain text from one of its runs on. `joint` is what stands before the run if there is one, and
`broken` says that a line end is part of it. -/
def takePlain (flow : Bool) (indent : Int) : (fuel : Nat) → (text joint : List Char) →
    (broken : Bool) → Scanner (List Char × Bool)
  | 0, text, _, broken => return (text, broken)
  | fuel + 1, text, joint, broken => do
    let s ← get
    if s.column = 0 ∧ (markAhead '-' s.ahead ∨ markAhead '.' s.ahead) then return (text, broken)
    else if s.ahead.head? = some '#' then return (text, broken)
    else
      let n := s.ahead.length + 1
      let run ← takePlainRun flow n []
      let text := if run.isEmpty then text else text ++ joint ++ run
      let (joint, broken) := if run.isEmpty then (joint, broken) else ([], false)
      if gapAhead (← ahead) && !(← ahead).isEmpty then
        let (gaps, first, more, brokenHere) ← takePlainGaps n indent [] [] [] broken
        let s ← get
        if !flow && (s.column : Int) < indent then return (text, brokenHere)
        else takePlain flow indent fuel text (joint ++ fold gaps first more brokenHere) brokenHere
      else return (text, broken)
where
  /-- As for a quoted text, but a tab may not stand where a line is to be indented. -/
  takePlainGaps : Nat → Int → List Char → List Char → List Char → Bool →
      Scanner (List Char × List Char × List Char × Bool)
    | 0, _, gaps, first, more, broken => return (gaps, first, more, broken)
    | fuel + 1, indent, gaps, first, more, broken => do
      let s ← get
      match s.ahead with
      | [] => return (gaps, first, more, broken)
      | c :: _ =>
        if isGap c then
          if broken && (s.column : Int) < indent && c == '\t' then malformed
          else
            skip
            takePlainGaps fuel indent (if broken then gaps else gaps ++ [c]) first more broken
        else if isBreak c then
          let b ← takeBreak
          if broken then takePlainGaps fuel indent gaps first (more ++ b) true
          else takePlainGaps fuel indent [] b more true
        else return (gaps, first, more, broken)

/-- A plain scalar. After a line end an unannounced key may begin. -/
def scanPlain : Scanner Unit := do
  let s ← get
  let (text, broken) ← takePlain (← inFlow) (s.indent + 1) (s.ahead.length + 1) [] [] false
  emit (.scalar .plain (.ofList text))
  if broken then allowKey true

def scanValue : Scanner Unit := do
  let s ← get
  match s.keys with
  | some k :: r =>
    set { s with keys := none :: r }
    insertAt k.token .key
    openBlock k.column (some k.token) .blockMappingStart
    allowKey false
  | _ =>
    if !(← inFlow) then
      if !s.keyAllowed then malformed
      openBlock s.column none .blockMappingStart
    allowKey (!(← inFlow))
  skip
  emit .value

/-- The tokens that the next characters begin; `false` at the end of the text. -/
def scanNext : Scanner Bool := do
  skipToToken ((← ahead).length + 1)
  dropStaleKeys
  closeTo (← get).column
  let s ← get
  let flow ← inFlow
  match s.ahead with
  | [] =>
    closeTo (-1)
    dropKey
    emit .streamEnd
    return false
  | c :: r =>
    let mark (t : Token) : Scanner Unit := do
      closeTo (-1)
      dropKey
      allowKey false
      skipMany 3
      emit t
    let openBrackets (t : Token) : Scanner Unit := do
      saveKey
      modify fun s => { s with keys := none :: s.keys }
      allowKey true
      skip
      emit t
    let closeBrackets (t : Token) : Scanner Unit := do
      dropKey
      modify fun s => { s with keys := if s.keys.length > 1 then s.keys.drop 1 else s.keys }
      allowKey false
      skip
      emit t
    let named (scan : Scanner Unit) : Scanner Unit := do
      saveKey
      allowKey false
      scan
    if s.column = 0 ∧ c = '%' then
      closeTo (-1)
      dropKey
      allowKey false
      scanDirective
    else if s.column = 0 ∧ markAhead '-' s.ahead then mark .documentStart
    else if s.column = 0 ∧ markAhead '.' s.ahead then mark .documentEnd
    else if c = '[' then openBrackets .flowSequenceStart
    else if c = '{' then openBrackets .flowMappingStart
    else if c = ']' then closeBrackets .flowSequenceEnd
    else if c = '}' then closeBrackets .flowMappingEnd
    else if c = ',' then
      dropKey
      allowKey true
      skip
      emit .flowEntry
    else if c = '-' ∧ gapAhead r then
      if !flow then
        if !s.keyAllowed then malformed
        openBlock s.column none .blockSequenceStart
      dropKey
      allowKey true
      skip
      emit .blockEntry
    else if c = '?' ∧ (flow ∨ gapAhead r) then
      if !flow then
        if !s.keyAllowed then malformed
        openBlock s.column none .blockMappingStart
      dropKey
      allowKey (!flow)
      skip
      emit .key
    else if c = ':' ∧ (flow ∨ gapAhead r) then scanValue
    else if c = '*' then named (scanName .alias)
    else if c = '&' then named (scanName .anchor)
    else if c = '!' then named scanTag
    else if (c = '|' ∨ c = '>') ∧ !flow then
      dropKey
      allowKey true
      scanBlockScalar (c = '|')
    else if c = '\'' ∨ c = '"' then named (scanQuoted (c = '\''))
    else
      let isSign := "-?:,[]\x7b\x7d#&*!|>'\"%@\x60".toList.contains c
      if (!isSign && !isGap c && !isBreak c) || (c == '-' && !r.head?.any isGap) ||
          (!flow && (c == '?' || c == ':') && !gapAhead r) then named scanPlain
      else malformed
    return true

/-- All tokens, in at most `fuel` steps. -/
def scanAll : (fuel : Nat) → Scanner Unit
  | 0 => malformed
  | fuel + 1 => do
    if ← scanNext then scanAll fuel

end Scanner

/-- The tokens of a text, unless it is malformed. A byte order mark at its start does not count. -/
def scan (text : List Char) : Option (List Token) :=
  let text := if text.head? = some '\uFEFF' then text.drop 1 else text
  if !text.all isAllowed then none
  else match (Scanner.scanAll (text.length + 2)).run { ahead := text } with
    | some (_, s) => some s.tokens.toList
    | none => none

end Moderation.Yaml
