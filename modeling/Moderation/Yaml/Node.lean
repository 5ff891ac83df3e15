import Moderation.Yaml.Scan

/-!
The tree of a YAML document. Tokens are read by descent; names of nodes are resolved on the way, so
that a tree holds no names.
-/
namespace Moderation.Yaml

/-- A node of a document. `loop` stands where a node refers to one that it is part of. -/
inductive Node
  | scalar (tag : Option String) (style : Style) (text : String)
  | sequence (tag : Option String) (items : List Node)
  | mapping (tag : Option String) (entries : List (Node × Node))
  | loop
deriving Repr

/-- The node that stands where none is written. -/
def Node.empty : Node := .scalar none .plain ""

/-- What is known while a document is read: the tokens ahead, the addresses of tag handles, and the
nodes that have a name, in the order in which they begin. -/
structure Descent where
  ahead : List Token
  handles : List (String × String) := []
  named : Array (String × Node) := #[]

/-- A step of a descent; it fails where a document is malformed. -/
abbrev Descend := StateT Descent Option

namespace Descend

def malformed {α : Type} : Descend α := fun _ => none

/-- The token ahead. The tokens of a text end in one that is never passed over. -/
def next : Descend Token := do return (← get).ahead.headD .streamEnd

def skip : Descend Unit := modify fun s => { s with ahead := s.ahead.drop 1 }

/-- Pass over a token that has to be there. -/
def expect (t : Token) : Descend Unit := do
  if (← next) = t then skip else malformed

/-- Give a name to a node that begins here; the number is for `finish`. -/
def enter (name : Option String) : Descend Nat := do
  let s ← get
  match name with
  | some n => set { s with named := s.named.push (n, .loop) }
  | none => pure ()
  return s.named.size

/-- The node that was begun under a name is complete. -/
def finish (name : Option String) (place : Nat) (node : Node) : Descend Node := do
  match name with
  | some n => modify fun s => { s with named := s.named.setIfInBounds place (n, node) }
  | none => pure ()
  return node

/-- The node that a name refers to: the last one begun under it. -/
def resolve (name : String) : Descend Node := do
  match (← get).named.toList.reverse.lookup name with
  | some node => return node
  | none => malformed

def resolveTag (handle suffix : String) : Descend String := do
  if handle.isEmpty then return suffix
  else match (← get).handles.lookup handle with
    | some address => return address ++ suffix
    | none => malformed

/-- The name and the tag before a node, in either order. -/
def takeProperties : Descend (Option String × Option String) := do
  match ← next with
  | .anchor name =>
    skip
    match ← next with
    | .tag handle suffix =>
      skip
      return (some name, some (← resolveTag handle suffix))
    | _ => return (some name, none)
  | .tag handle suffix =>
    skip
    let after ← next
    match after with
    | .anchor name =>
      skip
      return (some name, some (← resolveTag handle suffix))
    | _ => return (none, some (← resolveTag handle suffix))
  | _ => return (none, none)

mutual

/-- A node. `block` says that a block may begin here, and `flush` that a sequence may stand at the
column of the key before it. -/
def node : (fuel : Nat) → (block flush : Bool) → Descend Node
  | 0, _, _ => malformed
  | fuel + 1, block, flush => do
    match ← next with
    | .alias name =>
      skip
      resolve name
    | _ =>
      let (name, tag) ← takeProperties
      let place ← enter name
      let done (n : Node) : Descend Node := finish name place n
      let next ← next
      if flush && next = .blockEntry then done (.sequence tag (← flushItems fuel))
      else match next with
        | .scalar style text =>
          skip
          done (.scalar (if tag = some "!" then none else tag) style text)
        | .flowSequenceStart =>
          skip
          done (.sequence tag (← flowItems fuel true))
        | .flowMappingStart =>
          skip
          done (.mapping tag (← flowEntries fuel true))
        | .blockSequenceStart =>
          if block then
            skip
            done (.sequence tag (← blockItems fuel))
          else malformed
        | .blockMappingStart =>
          if block then
            skip
            done (.mapping tag (← blockEntries fuel))
          else malformed
        | _ => if name.isSome || tag.isSome then done (.scalar tag .plain "") else malformed

/-- A node, or the empty one before a token that ends it. -/
def nodeUnless : (fuel : Nat) → (ends : List Token) → (block flush : Bool) → Descend Node
  | 0, _, _, _ => malformed
  | fuel + 1, ends, block, flush => do
    if ends.contains (← next) then return .empty else node fuel block flush

def blockItems : (fuel : Nat) → Descend (List Node)
  | 0 => malformed
  | fuel + 1 => do
    match ← next with
    | .blockEntry =>
      skip
      let item ← nodeUnless fuel [.blockEntry, .blockEnd] true false
      return item :: (← blockItems fuel)
    | .blockEnd =>
      skip
      return []
    | _ => malformed

/-- The items of a sequence at the column of its key. -/
def flushItems : (fuel : Nat) → Descend (List Node)
  | 0 => malformed
  | fuel + 1 => do
    match ← next with
    | .blockEntry =>
      skip
      let item ← nodeUnless fuel [.blockEntry, .key, .value, .blockEnd] true false
      return item :: (← flushItems fuel)
    | _ => return []

def blockEntries : (fuel : Nat) → Descend (List (Node × Node))
  | 0 => malformed
  | fuel + 1 => do
    match ← next with
    | .key =>
      skip
      let ends : List Token := [.key, .value, .blockEnd]
      let key ← nodeUnless fuel ends true true
      if (← next) = .value then
        skip
        let value ← nodeUnless fuel ends true true
        return (key, value) :: (← blockEntries fuel)
      else return (key, .empty) :: (← blockEntries fuel)
    | .blockEnd =>
      skip
      return []
    | _ => malformed

/-- The items of a sequence in brackets. An item with a key is a mapping of one entry. -/
def flowItems : (fuel : Nat) → (first : Bool) → Descend (List Node)
  | 0, _ => malformed
  | fuel + 1, first => do
    if (← next) = .flowSequenceEnd then
      skip
      return []
    if !first then expect .flowEntry
    match ← next with
    | .flowSequenceEnd =>
      skip
      return []
    | .key =>
      skip
      let ends : List Token := [.flowEntry, .flowSequenceEnd]
      let bare := (.value :: ends).contains (← next)
      if bare then skip
      let key ← if bare then pure .empty else node fuel false false
      let value ← if (← next) = .value then
          skip
          nodeUnless fuel ends false false
        else pure .empty
      return .mapping none [(key, value)] :: (← flowItems fuel false)
    | _ =>
      let item ← node fuel false false
      return item :: (← flowItems fuel false)

def flowEntries : (fuel : Nat) → (first : Bool) → Descend (List (Node × Node))
  | 0, _ => malformed
  | fuel + 1, first => do
    if (← next) = .flowMappingEnd then
      skip
      return []
    if !first then expect .flowEntry
    let ends : List Token := [.flowEntry, .flowMappingEnd]
    match ← next with
    | .flowMappingEnd =>
      skip
      return []
    | .key =>
      skip
      let key ← nodeUnless fuel (.value :: ends) false false
      let value ← if (← next) = .value then
          skip
          nodeUnless fuel ends false false
        else pure .empty
      return (key, value) :: (← flowEntries fuel false)
    | _ =>
      let key ← node fuel false false
      return (key, .empty) :: (← flowEntries fuel false)

end

def takeDirectives : (fuel : Nat) → (versioned : Bool) → Descend Unit
  | 0, _ => malformed
  | fuel + 1, versioned => do
    match ← next with
    | .versionDirective major minor =>
      if versioned || major != 1 || !(minor == 1 || minor == 2) then malformed
      else
        skip
        takeDirectives fuel true
    | .tagDirective handle address =>
      let s ← get
      if (s.handles.lookup handle).isSome then malformed
      else
        set { s with handles := (handle, address) :: s.handles }
        skip
        takeDirectives fuel versioned
    | _ => pure ()

/-- Pass over the marks that end a document. -/
def skipEnds : (fuel : Nat) → Descend Unit
  | 0 => malformed
  | fuel + 1 => do
    if (← next) = .documentEnd then
      skip
      skipEnds fuel

/-- Whether a token belongs to the beginning of a document that is announced. -/
def announces : Token → Bool
  | .versionDirective .. => true
  | .tagDirective .. => true
  | .documentStart => true
  | _ => false

/-- The only document of a text. An empty text is an empty document. -/
def document (fuel : Nat) : Descend Node := do
  if (← next) = .streamEnd then return .empty
  let announced := announces (← next)
  if announced then
    takeDirectives fuel false
    expect .documentStart
  modify fun s =>
    { s with handles := s.handles ++ [("!", "!"), ("!!", "tag:yaml.org,2002:")] }
  let first ← next
  let bare := announced &&
    (announces first || first = .documentEnd || first = .streamEnd)
  let root ← if bare then pure .empty else node fuel true false
  skipEnds fuel
  expect .streamEnd
  return root

end Descend

/-- The document of a text, if the text is well formed and holds no second one. -/
def Node.ofText? (text : List Char) : Option Node := do
  let tokens ← scan text
  let (root, _) ← (Descend.document (4 * tokens.length + 4)).run { ahead := tokens }
  return root

end Moderation.Yaml
