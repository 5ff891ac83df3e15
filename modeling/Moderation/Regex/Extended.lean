import Moderation.Regex.Standard

/-!
Reading patterns of the extended kind: with look-around, references to groups, atomic groups and
possessive repetitions.
-/
namespace Moderation.Regex
open Moderation.Unicode Reader

/-- Text after what does not count: comments in parentheses, and blanks and comments up to the end of
a line where the switch for it is on. It fails on a comment that is not closed. -/
def afterGap (ignoreSpace : Bool) : (fuel : Nat) → List Char → Option (List Char)
  | 0, cs => some cs
  | fuel + 1, cs =>
    match cs with
    | '(' :: '?' :: '#' :: r => (afterComment r).bind (afterGap ignoreSpace fuel)
    | c :: r =>
      if ignoreSpace && c == '#' then
        afterGap ignoreSpace fuel ((r.dropWhile (· != '\n')).drop 1)
      else if ignoreSpace && [' ', '\r', '\n', '\t'].contains c then afterGap ignoreSpace fuel r
      else some cs
    | [] => some []
where
  /-- Text after the parenthesis that closes a comment. -/
  afterComment : List Char → Option (List Char)
    | [] => none
    | ')' :: r => some r
    | '\\' :: _ :: r => afterComment r
    | _ :: r => afterComment r

def skipGap : Reader Unit := do
  let cs ← ahead
  goto (← ofOption (afterGap (← flags).ignoreSpace (cs.length + 1) cs))

def closeGroup : Reader Unit := do
  skipGap
  expect ')'

def isIdChar (c : Char) : Bool := isAlphanumeric c || c == '_'

/-- A name between two marks at the start of a text, and the text after it. -/
def readId? (opening closing cs : List Char) : Option (List Char × List Char) :=
  if !opening.isPrefixOf cs then none
  else
    let r := cs.drop opening.length
    let id := r.takeWhile isIdChar
    let after := r.dropWhile isIdChar
    if id.isEmpty || !closing.isPrefixOf after then none
    else some (id, after.drop closing.length)

def natOfDigits? (cs : List Char) : Option Nat :=
  if cs.isEmpty || !cs.all isAsciiDigit then none
  else some (cs.foldl (fun n c => 10 * n + (c.toNat - '0'.toNat)) 0)

/-- The number of a group by its name, or the number itself. -/
def groupOf? (names : List (String × Nat)) (id : List Char) : Option Nat :=
  (names.lookup (.ofList id)).or (natOfDigits? id)

def reference (group : Nat) : Reader Node := do
  if (← get).groups < group then malformed else return .backref group

def readNamedReference (opening closing : List Char) : Reader Node := do
  let (id, r) ← ofOption (readId? opening closing (← ahead))
  goto r
  reference (← ofOption (groupOf? (← get).names id))

def readNumberedReference (whole : Nat) : Reader Node := do
  let cs ← ahead
  let ds := cs.takeWhile isAsciiDigit
  let group ← ofOption (natOfDigits? ds)
  if whole / 2 ≤ group then malformed
  else
    goto (cs.drop ds.length)
    modify ({ · with numbered := true })
    reference group

/-- A character by its number: so many digits, or up to eight between braces. -/
def readCodePoint (digits : Nat) : Reader Char := do
  let cs ← ahead
  if cs.length ≥ digits ∧ (cs.take digits).all isHexDigit then
    goto (cs.drop digits)
    ofOption (charOfNumber? (hexNumber (cs.take digits)))
  else
    match cs with
    | '{' :: r =>
      let ds := r.takeWhile isHexDigit
      if ds.isEmpty ∨ 8 < ds.length then malformed
      else
        goto (r.drop ds.length)
        expect '}'
        ofOption (charOfNumber? (hexNumber ds))
    | _ => malformed

/-- The text of a property up to its closing brace, braces included, or its one letter. -/
def readPropertyText : Reader (List Char) := do
  match ← ahead with
  | [] => malformed
  | '{' :: r =>
    match cutAt ['}'] r with
    | some (name, after) => goto after; return '{' :: name ++ ['}']
    | none => malformed
  | c :: r => goto r; return [c]

/-- What an escape stands for in an extended pattern: a character, the text of a set in a plain
pattern, or a node. -/
inductive ExtendedEscape
  | literal (c : Char)
  | set (text : List Char)
  | node (n : Node)

def controlEscapes : List (Char × Char) :=
  [('a', '\x07'), ('b', '\x08'), ('f', '\x0c'), ('n', '\n'), ('r', '\r'), ('t', '\t'),
   ('v', '\x0b'), ('e', '\x1b')]

def readExtendedEscape (whole : Nat) (inClass : Bool) : Reader ExtendedEscape := do
  let cs ← ahead
  match cs with
  | [] => malformed
  | c :: r =>
    let assertion (a : Assertion) : Reader ExtendedEscape := do
      goto r
      return .node (.assertion a)
    let general : Reader ExtendedEscape := do
      goto r
      if ['d', 's', 'w', 'D', 'S', 'W'].contains c then return .set ['\\', c]
      else if c = 'h' then return .set "[0-9A-Fa-f]".toList
      else if c = 'H' then return .set "[^0-9A-Fa-f]".toList
      else if c = 'x' then return .literal (← readCodePoint 2)
      else if c = 'u' then return .literal (← readCodePoint 4)
      else if c = 'U' then return .literal (← readCodePoint 8)
      else if (c = 'p' ∨ c = 'P') ∧ !r.isEmpty then
        return .set ('\\' :: c :: (← readPropertyText))
      else match controlEscapes.lookup c with
        | some d => return .literal d
        | none =>
          if isAsciiLetter c && !(inClass && "kAzBKG".toList.contains c) then malformed
          else return .literal c
    if isAsciiDigit c then return .node (← readNumberedReference whole)
    else if inClass then general
    else match c with
      | 'k' =>
        goto r
        if r.head? = some '\'' then return .node (← readNamedReference ['\''] ['\''])
        else return .node (← readNamedReference ['<'] ['>'])
      | 'A' => assertion .textStart
      | 'z' => assertion .textEnd
      | 'Z' =>
        goto r
        return .node (.look 0 false
          (.sequence [.repeated (.set (.single '\n')) 0 none true, .assertion .textEnd]))
      | 'b' =>
        if r.head? = some '{' then malformed else assertion (.boundary .edge false)
      | 'B' => assertion (.boundary .noEdge false)
      | '<' => assertion (.boundary .start false)
      | '>' => assertion (.boundary .stop false)
      | 'K' => goto r; return .node .keepOut
      | 'G' => goto r; return .node .searchStart
      | _ => general

/-- The set that a text denotes in a plain pattern, under the switch for case alone. -/
def plainSet? (ignoreCase : Bool) (text : List Char) : Option CharSet :=
  let start : Reading := { ahead := text, flags := { ignoreCase } }
  let read : Reader CharSet := do
    match ← ahead with
    | '[' :: r => goto r; readClass (r.length + 1)
    | '\\' :: r =>
      goto r
      match ← readEscape with
      | .set s => return s
      | _ => malformed
    | _ => malformed
  match read.run start with
  | some (s, t) => if t.ahead.isEmpty then some s else none
  | none => none

/-- The text of a bracketed class with its escapes written as in a plain pattern; `depth` brackets
are open. -/
def readClassText (whole : Nat) : (fuel : Nat) → (depth : Nat) → List Char → Reader (List Char)
  | 0, _, _ => malformed
  | fuel + 1, depth, text => do
    match ← ahead with
    | [] => malformed
    | '\\' :: r =>
      goto r
      match ← readExtendedEscape whole true with
      | .literal c =>
        let written := if metaCharacters.contains c then ['\\', c] else [c]
        readClassText whole fuel depth (text ++ written)
      | .set s => readClassText whole fuel depth (text ++ s)
      | .node _ => malformed
    | '[' :: r => goto r; readClassText whole fuel (depth + 1) (text ++ ['['])
    | ']' :: r =>
      goto r
      if depth ≤ 1 then return text ++ [']']
      else readClassText whole fuel (depth - 1) (text ++ [']'])
    | c :: r => goto r; readClassText whole fuel depth (text ++ [c])

def readExtendedClass (whole : Nat) : Reader Node := do
  let cs ← ahead
  let (text, cs) := match cs with
    | '^' :: r => (['[', '^'], r)
    | r => (['['], r)
  let (text, cs) := match cs with
    | ']' :: r => (text ++ [']'], r)
    | r => (text, r)
  goto cs
  let text ← readClassText whole (cs.length + 1) 1 text
  return .set (← ofOption (plainSet? (← flags).ignoreCase text))

/-- The bounds of a counted repetition after its opening brace, if the text ahead is one. -/
def counts? (ignoreSpace : Bool) (cs : List Char) : Option (Nat × Option Nat × List Char) := do
  let gap (cs : List Char) := afterGap ignoreSpace (cs.length + 1) cs
  let cs ← gap cs
  let ds := cs.takeWhile isAsciiDigit
  let low ← match cs with
    | ',' :: _ => some 0
    | _ => natOfDigits? ds
  let cs ← gap (if cs.head? = some ',' then cs else cs.drop ds.length)
  match cs with
  | '}' :: r => return (low, some low, r)
  | ',' :: r =>
    let cs ← gap r
    let ds := cs.takeWhile isAsciiDigit
    let high := natOfDigits? ds
    match ← gap (cs.drop ds.length) with
    | '}' :: r => return (low, high, r)
    | _ => none
  | _ => none

/-- Look-around, what is empty and conditions cannot be repeated. -/
def Node.isRepeatable : Node → Bool
  | .look .. => false
  | .empty => false
  | .assertion _ => false
  | _ => true

/-- The least number of characters that a pattern matches, and whether it always matches as many. -/
def Node.size : Node → Nat × Bool
  | .empty => (0, true)
  | .set _ => (1, true)
  | .assertion _ => (0, true)
  | .capture _ b => b.size
  | .concat a b => (a.size.1 + b.size.1, a.size.2 && b.size.2)
  | .alt a b => (min a.size.1 b.size.1, a.size.2 && b.size.2 && a.size.1 == b.size.1)
  | .repeated b min max _ => (b.size.1 * min, b.size.2 && max == some min)
  | .backref _ => (0, false)
  | .look .. => (0, true)
  | .atomic b => b.size
  | .once b => b.size
  | .keepOut => (0, true)
  | .searchStart => (0, true)
  | .captured _ => (0, true)
  | .ifThen c a b =>
    (c.size.1 + min a.size.1 b.size.1,
      c.size.2 && a.size.2 && b.size.2 && a.size.1 == b.size.1)

def Node.branches : Node → List Node
  | .alt a b => a :: b.branches
  | n => [n]

/-- A look behind. What is looked for has a fixed length, or each of its branches has one. -/
def lookBehind? (negative : Bool) (body : Node) : Option Node :=
  let one (b : Node) := if b.size.2 then some (Node.look b.size.1 negative b) else none
  if body.size.2 then one body
  else do
    let looks ← body.branches.mapM one
    return if negative then .sequence looks else .choice looks

inductive ExtendedHead
  | capture (index : Nat)
  | look (behind negative : Bool)
  | atomic
  | reference (n : Node)
  | condition
  | switches (closed : Bool)

/-- The switches of a group, after the question mark: closed by a parenthesis or ended by a colon. -/
def readExtendedSwitches : (fuel : Nat) → (seen : List Char) → Reader Bool
  | 0, _ => malformed
  | fuel + 1, seen => do
    skipGap
    let dangling := seen.getLast? = some '-'
    match ← ahead with
    | [] => malformed
    | c :: r =>
      goto r
      if c = ')' then if seen.isEmpty ∨ dangling then malformed else return true
      else if c = ':' then if dangling then malformed else return false
      else if c = '-' then
        if seen.contains '-' then malformed else readExtendedSwitches fuel (seen ++ ['-'])
      else if c = 'R' then malformed
      else
        let on := !seen.contains '-'
        if c = 'u' ∧ !on then malformed
        else
          setFlags (← ofOption ((← flags).set? c on))
          readExtendedSwitches fuel (seen ++ [c])

def readExtendedName (opening closing : List Char) : Reader ExtendedHead := do
  let i ← openGroup
  let (id, r) ← ofOption (readId? opening closing (← ahead))
  goto r
  modify fun s => { s with names := (.ofList id, i) :: s.names }
  return .capture i

def readExtendedHead : Reader ExtendedHead := do
  skipGap
  match ← ahead with
  | '?' :: '=' :: r => goto r; return .look false false
  | '?' :: '!' :: r => goto r; return .look false true
  | '?' :: '<' :: '=' :: r => goto r; return .look true false
  | '?' :: '<' :: '!' :: r => goto r; return .look true true
  | '?' :: '<' :: r => goto ('<' :: r); readExtendedName ['<'] ['>']
  | '?' :: '\'' :: r => goto ('\'' :: r); readExtendedName ['\''] ['\'']
  | '?' :: 'P' :: '<' :: r => goto ('<' :: r); readExtendedName ['<'] ['>']
  | '?' :: 'P' :: '=' :: r => goto r; return .reference (← readNamedReference [] [')'])
  | '?' :: '>' :: r => goto r; return .atomic
  | '?' :: '(' :: r => goto r; return .condition
  | '?' :: r => goto r; return .switches (← readExtendedSwitches (r.length + 1) [])
  | _ => return .capture (← openGroup)

/-- Repeat a node as the signs after it ask. -/
def readRepetition (node : Node) : Reader Node := do
  skipGap
  let f ← flags
  let repeatBy (min : Nat) (max : Option Nat) (r : List Char) : Reader Node := do
    if !node.isRepeatable then malformed
    goto r
    skipGap
    let lazy ← match ← ahead with
      | '?' :: r => do goto r; pure true
      | _ => pure false
    let whole := Node.repeated node min max (lazy == f.swapGreed)
    match ← ahead with
    | '+' :: r => goto r; return .atomic whole
    | _ => return whole
  match ← ahead with
  | '?' :: r => repeatBy 0 (some 1) r
  | '*' :: r => repeatBy 0 none r
  | '+' :: r => repeatBy 1 none r
  | '{' :: r =>
    match counts? f.ignoreSpace r with
    | some (min, max, r) => repeatBy min max r
    | none => return node
  | _ => return node

mutual

def readExtendedBranches (whole : Nat) : (fuel : Nat) → (depth : Nat) → Reader Node
  | 0, _ => malformed
  | fuel + 1, depth => do
    let first ← readExtendedBranch whole fuel depth []
    skipGap
    match ← ahead with
    | '|' :: _ => return .choice (first :: (← readMoreBranches whole fuel depth))
    | _ =>
      let s ← get
      if s.numbered && !s.names.isEmpty then malformed else return first

def readMoreBranches (whole : Nat) : (fuel : Nat) → (depth : Nat) → Reader (List Node)
  | 0, _ => malformed
  | fuel + 1, depth => do
    match ← ahead with
    | '|' :: r =>
      goto r
      let branch ← readExtendedBranch whole fuel depth []
      skipGap
      return branch :: (← readMoreBranches whole fuel depth)
    | _ => return []

/-- One branch: pieces one after the other, as long as each takes something. -/
def readExtendedBranch (whole : Nat) : (fuel : Nat) → (depth : Nat) → List Node → Reader Node
  | 0, _, _ => malformed
  | fuel + 1, depth, pieces => do
    let before ← ahead
    if before.isEmpty then return .sequence pieces
    else
      let piece ← readRepetition (← readAtom whole fuel depth)
      if (← ahead).length = before.length then return .sequence pieces
      else
        let pieces := if piece = .empty then pieces else pieces ++ [piece]
        readExtendedBranch whole fuel depth pieces

def readAtom (whole : Nat) : (fuel : Nat) → (depth : Nat) → Reader Node
  | 0, _ => malformed
  | fuel + 1, depth => do
    skipGap
    let f ← flags
    match ← ahead with
    | [] => return .empty
    | '.' :: r => goto r; return .set (if f.dotAll then .all else .allButLineFeed)
    | '^' :: r => goto r; return .assertion (if f.multiLine then .lineStart false else .textStart)
    | '$' :: r => goto r; return .assertion (if f.multiLine then .lineEnd false else .textEnd)
    | '(' :: r => if 63 ≤ depth then malformed else goto r; readExtendedGroup whole fuel (depth + 1)
    | '\\' :: r =>
      goto r
      match ← readExtendedEscape whole false with
      | .literal c => return .set (f.fold (.single c))
      | .set text => return .set (← ofOption (plainSet? f.ignoreCase text))
      | .node n => return n
    | '[' :: r => goto r; readExtendedClass whole
    | c :: r =>
      if ['+', '*', '?', '|', ')'].contains c then return .empty
      else goto r; return .set (f.fold (.single c))

def readExtendedGroup (whole : Nat) : (fuel : Nat) → (depth : Nat) → Reader Node
  | 0, _ => malformed
  | fuel + 1, depth => do
    let outer ← flags
    match ← readExtendedHead with
    | .reference n => return n
    | .switches true => return .empty
    | .switches false =>
      let body ← readExtendedBranches whole fuel depth
      expect ')'
      setFlags outer
      return body
    | .capture i =>
      let body ← readExtendedBranches whole fuel depth
      closeGroup
      return .capture i body
    | .atomic =>
      let body ← readExtendedBranches whole fuel depth
      closeGroup
      return .atomic body
    | .look behind negative =>
      let body ← readExtendedBranches whole fuel depth
      closeGroup
      if behind then ofOption (lookBehind? negative body) else return .look 0 negative body
    | .condition =>
      let condition ← readCondition whole fuel depth
      closeGroup
      let before ← ahead
      let body ← readExtendedBranches whole fuel depth
      let empty := (← ahead).length = before.length
      closeGroup
      if empty then
        match condition with
        | .captured i => return .captured i
        | _ => malformed
      else match body with
        | .alt yes no => return .ifThen condition yes no
        | yes => return .ifThen condition yes .empty

/-- What a conditional group asks: whether a group took part, or whether something matches. -/
def readCondition (whole : Nat) : (fuel : Nat) → (depth : Nat) → Reader Node
  | 0, _ => malformed
  | fuel + 1, depth => do
    let captured (n : Node) : Reader Node := match n with
      | .backref i => return .captured i
      | n => return n
    match ← ahead with
    | [] => malformed
    | '\'' :: _ => captured (← readNamedReference ['\''] ['\''])
    | '<' :: _ => captured (← readNamedReference ['<'] ['>'])
    | c :: _ =>
      if isAsciiDigit c then captured (← readNumberedReference whole)
      else readExtendedBranches whole fuel depth

end

def Node.references : Node → List Nat
  | .capture _ b => b.references
  | .concat a b => a.references ++ b.references
  | .alt a b => a.references ++ b.references
  | .repeated b _ _ _ => b.references
  | .backref i => [i]
  | .look _ _ b => b.references
  | .atomic b => b.references
  | .once b => b.references
  | .captured i => [i]
  | .ifThen c a b => c.references ++ a.references ++ b.references
  | _ => []

/-- Whether a pattern needs going back, where the given groups are referred to. -/
def Node.isHard (refs : List Nat) : Node → Bool
  | .empty => false
  | .set _ => false
  | .assertion (.boundary ..) => true
  | .assertion _ => false
  | .capture i b => refs.contains i || b.isHard refs
  | .concat a b => a.isHard refs || b.isHard refs
  | .alt a b => a.isHard refs || b.isHard refs
  | .repeated b _ _ _ => b.isHard refs
  | _ => true

def Node.members : Node → List Node
  | .concat a b => a.members ++ [b]
  | .empty => []
  | n => [n]

/-- Match a run of plain patterns without going back. -/
def onceAll : List Node → List Node
  | [] => []
  | [.set s] => [.set s]
  | [.assertion a] => [.assertion a]
  | ns => [.once (.sequence ns)]

/-- A sequence whose plain members at the front, if of fixed length, and at the back are matched
without going back; `inner` says whether something may have to go back into the sequence. -/
def planSequence (refs : List Nat) (inner : Bool) (members : List (Node × Node)) : Node :=
  let fixed (m : Node × Node) := m.1.size.2 && !m.1.isHard refs
  let front := members.takeWhile fixed
  let rest := members.dropWhile fixed
  let easy (m : Node × Node) := if inner then fixed m else !m.1.isHard refs
  let back := (rest.reverse.takeWhile easy).reverse
  let middle := rest.take (rest.length - back.length)
  .sequence (onceAll (front.map (·.1)) ++ middle.map (·.2) ++ onceAll (back.map (·.1)))

mutual

/-- A pattern with the parts marked that are matched without going back. -/
def Node.plan (refs : List Nat) (inner : Bool) : Node → Node
  | .capture i b =>
    if !inner && !Node.isHard refs (.capture i b) then .once (.capture i b)
    else .capture i (b.plan refs inner)
  | .concat a b =>
    if !inner && !Node.isHard refs (.concat a b) then .once (.concat a b)
    else planSequence refs inner (a.planMembers refs ++ [(b, b.plan refs true)])
  | .alt a b =>
    if !inner && !Node.isHard refs (.alt a b) then .once (.alt a b)
    else .alt (a.plan refs inner) (b.plan refs inner)
  | .repeated b min max greedy =>
    if !inner && !b.isHard refs then .once (.repeated b min max greedy)
    else if min = 0 ∧ max = some 1 then .repeated (b.plan refs inner) min max greedy
    else .repeated (b.plan refs (inner || b.isHard refs)) min max greedy
  | .look back negative b => .look back negative (b.plan refs false)
  | .atomic b => .atomic (b.plan refs false)
  | .ifThen c a b => .ifThen (c.plan refs inner) (a.plan refs inner) (b.plan refs inner)
  | n => n

/-- The members of a sequence, each with its plan for when something may go back into it. -/
def Node.planMembers (refs : List Nat) : Node → List (Node × Node)
  | .concat a b => a.planMembers refs ++ [(b, b.plan refs true)]
  | .empty => []
  | .set s => [(.set s, .set s)]
  | .assertion a => [(.assertion a, .assertion a)]
  | .capture i b => [(.capture i b, .capture i (b.plan refs true))]
  | .alt a b => [(.alt a b, .alt (a.plan refs true) (b.plan refs true))]
  | .repeated b min max greedy =>
    [(.repeated b min max greedy, .repeated (b.plan refs true) min max greedy)]
  | .look back negative b =>
    [(.look back negative b, .look back negative (b.plan refs false))]
  | .atomic b => [(.atomic b, .atomic (b.plan refs false))]
  | .ifThen c a b =>
    [(.ifThen c a b, .ifThen (c.plan refs true) (a.plan refs true) (b.plan refs true))]
  | n => [(n, n)]

end

/-- A whole extended pattern, with the number of its groups and their names. -/
def readExtended (pattern : List Char) : Option (Node × Nat × List (String × Nat)) :=
  let fuel := 4 * pattern.length + 8
  let whole := (String.ofList pattern).utf8ByteSize
  match (readExtendedBranches whole fuel 0).run { ahead := pattern } with
  | some (node, s) => if s.ahead.isEmpty then some (node, s.groups, s.names) else none
  | none => none

end Moderation.Regex
