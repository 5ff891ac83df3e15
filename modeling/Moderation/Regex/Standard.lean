import Moderation.Regex.Escape

/-!
Reading patterns of the plain kind: without look-around and without references to groups.
-/
namespace Moderation.Regex
open Moderation.Unicode Reader

inductive GroupHead
  | switches
  | body (index : Option Nat)

/-- The switches of a group up to the closing parenthesis or the colon, which is left. `seen` are the
letters so far, which must be new. -/
def readSwitches : (fuel : Nat) → (seen : List Char) → (negated : Bool) → Reader (List Char)
  | 0, _, _ => malformed
  | fuel + 1, seen, negated => do
    match ← ahead with
    | [] => malformed
    | c :: r =>
      if c = ':' ∨ c = ')' then
        if seen.getLast? = some '-' then malformed else return seen
      else if seen.contains c then malformed
      else if c = '-' then
        goto r
        readSwitches fuel (seen ++ ['-']) true
      else
        goto r
        setFlags (← ofOption ((← flags).set? c (!negated)))
        readSwitches fuel (seen ++ [c]) negated

/-- Characters of group names; a name starts with a letter or an underscore. -/
def isNameChar (first : Bool) (c : Char) : Bool :=
  c == '_' || if first then inSpansOrAsciiLetter c else
    isAlphanumeric c || c == '.' || c == '[' || c == ']'
where
  /-- A letter of any script. -/
  inSpansOrAsciiLetter (c : Char) : Bool :=
    if c.toNat < 128 then isAsciiLetter c else inSpans Property.alphabetic c.toNat

def readGroupName (index : Nat) : Reader Unit := do
  match cutAt ['>'] (← ahead) with
  | none => malformed
  | some (name, r) =>
    match name with
    | [] => malformed
    | c :: cs =>
      if !isNameChar true c || !cs.all (isNameChar false) then malformed
      else
        let name := String.ofList name
        let s ← get
        if (s.names.lookup name).isSome then malformed
        else
          set { s with names := s.names ++ [(name, index)] }
          goto r

def readGroupHead : Reader GroupHead := do
  skipSpace
  match ← ahead with
  | '?' :: '=' :: _ => malformed
  | '?' :: '!' :: _ => malformed
  | '?' :: '<' :: '=' :: _ => malformed
  | '?' :: '<' :: '!' :: _ => malformed
  | '?' :: 'P' :: '<' :: r =>
    let i ← openGroup
    goto r
    readGroupName i
    return .body (some i)
  | '?' :: '<' :: r =>
    let i ← openGroup
    goto r
    readGroupName i
    return .body (some i)
  | '?' :: r =>
    goto r
    let seen ← readSwitches (r.length + 1) [] false
    match ← ahead with
    | ':' :: r => goto r; return .body none
    | ')' :: r => if seen.isEmpty then malformed else goto r; return .switches
    | _ => malformed
  | _ => return .body (some (← openGroup))

/-- A number inside braces with blanks around it, or none where there are no digits. -/
def readCount : Reader (Option Nat) := do
  goto ((← ahead).dropWhile isBlank)
  let cs ← ahead
  let ds := cs.takeWhile isAsciiDigit
  goto ((cs.drop ds.length).dropWhile isBlank)
  skipSpace
  if ds.isEmpty then return none else return some (← ofOption (decimalNumber? ds))

/-- The bounds of a counted repetition, after its opening brace. -/
def readCounts : Reader (Nat × Option Nat) := do
  skipSpace
  let low ← ofOption (← readCount)
  match ← ahead with
  | '}' :: r => goto r; return (low, some low)
  | ',' :: r =>
    goto r
    skipSpace
    match ← ahead with
    | '}' :: r => goto r; return (low, none)
    | _ =>
      let high ← ofOption (← readCount)
      expect '}'
      if low ≤ high then return (low, some high) else malformed
  | _ => malformed

/-- Whether a repetition is greedy, by the question mark after it. -/
def readGreed : Reader Bool := do
  match ← ahead with
  | '?' :: r => goto r; return (← flags).swapGreed
  | _ => return !(← flags).swapGreed

/-- The items of a branch in reverse, with `none` for switches, which cannot be repeated. -/
abbrev Items := List (Option Node)

def repeatLast (items : Items) (min : Nat) (max : Option Nat) (greedy : Bool) : Reader Items :=
  match items with
  | some n :: r => return some (.repeated n min max greedy) :: r
  | _ => malformed

def branchOf (items : Items) : Node := .sequence (items.reverse.filterMap id)

/-- One character, escape or sign that is no operator. -/
def readPrimitive (c : Char) (r : List Char) : Reader Node := do
  let f ← flags
  goto r
  match c with
  | '\\' =>
    match ← readEscape with
    | .literal c => return .set (f.fold (.single c))
    | .set s => return .set s
    | .condition a => return .assertion a
  | '.' =>
    if !f.unicode then malformed
    else if f.dotAll then return .set .all
    else if f.carriageReturns then
      return .set (.complement (.union (.single '\n') (.single '\r')))
    else return .set .allButLineFeed
  | '^' => return .assertion (if f.multiLine then .lineStart f.carriageReturns else .textStart)
  | '$' => return .assertion (if f.multiLine then .lineEnd f.carriageReturns else .textEnd)
  | c => return .set (f.fold (.single c))

/-- The branches of a group, up to its closing parenthesis or the end of the pattern. -/
def readBranches : (fuel : Nat) → (done : List Node) → Items → Reader Node
  | 0, _, _ => malformed
  | fuel + 1, done, items => do
    skipSpace
    match ← ahead with
    | [] => return .choice (done ++ [branchOf items])
    | ')' :: _ => return .choice (done ++ [branchOf items])
    | '|' :: r => goto r; readBranches fuel (done ++ [branchOf items]) []
    | '(' :: r =>
      let outer ← flags
      goto r
      match ← readGroupHead with
      | .switches => readBranches fuel done (none :: items)
      | .body index =>
        let body ← readBranches fuel [] []
        expect ')'
        setFlags outer
        let node := match index with
          | some i => .capture i body
          | none => body
        readBranches fuel done (some node :: items)
    | '[' :: r =>
      goto r
      let s ← readClass (r.length + 1)
      readBranches fuel done (some (.set s) :: items)
    | '?' :: r => goto r; readBranches fuel done (← repeatLast items 0 (some 1) (← readGreed))
    | '*' :: r => goto r; readBranches fuel done (← repeatLast items 0 none (← readGreed))
    | '+' :: r => goto r; readBranches fuel done (← repeatLast items 1 none (← readGreed))
    | '{' :: r =>
      goto r
      let (min, max) ← readCounts
      skipSpace
      readBranches fuel done (← repeatLast items min max (← readGreed))
    | c :: r => readBranches fuel done (some (← readPrimitive c r) :: items)

/-- A whole plain pattern, with the number of its groups and their names. -/
def readStandard (pattern : List Char) : Option (Node × Nat × List (String × Nat)) :=
  match (readBranches (pattern.length + 1) [] []).run { ahead := pattern } with
  | some (node, s) => if s.ahead.isEmpty then some (node, s.groups, s.names) else none
  | none => none

end Moderation.Regex
