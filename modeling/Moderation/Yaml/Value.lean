import Moderation.Yaml.Node
import Moderation.Yaml.Scalar

/-!
Documents as values: what a scalar stands for is decided by how it is written.
-/
namespace Moderation.Yaml

/-- A value. The keys of a mapping are texts. -/
inductive Value
  | null
  | boolean (b : Bool)
  | number (x : Binary64)
  | text (s : String)
  | list (items : List Value)
  | mapping (entries : List (String × Value))
deriving Repr

namespace Value

mutual

/-- The value of a node; none if a key is no text or occurs twice. -/
def ofNode? : Node → Option Value
  | .scalar tag style written =>
    match Meaning.ofScalar? tag style written with
    | some .null => some .null
    | some (.boolean b) => some (.boolean b)
    | some (.number x) => some (.number x)
    | some (.text s) => some (.text s)
    | some .beyond => none
    | none => none
  | .sequence _ items => (ofNodes? items).map .list
  | .mapping _ entries => (ofEntries? [] entries).map .mapping
  | .loop => none

def ofNodes? : List Node → Option (List Value)
  | [] => some []
  | n :: ns =>
    match ofNode? n, ofNodes? ns with
    | some v, some vs => some (v :: vs)
    | _, _ => none

/-- The values of the entries of a mapping after those with the keys `seen`. -/
def ofEntries? (seen : List String) : List (Node × Node) → Option (List (String × Value))
  | [] => some []
  | (k, n) :: rest =>
    match ofNode? k, ofNode? n with
    | some (.text key), some v =>
      if seen.contains key then none
      else (ofEntries? (key :: seen) rest).map ((key, v) :: ·)
    | _, _ => none

end

def ofText? (text : List Char) : Option Value := (Node.ofText? text).bind ofNode?

def boolean? : Value → Option Bool
  | .boolean b => some b
  | _ => none

def number? : Value → Option Binary64
  | .number x => some x
  | _ => none

def text? : Value → Option String
  | .text s => some s
  | _ => none

def texts? : Value → Option (List String)
  | .list items => items.mapM text?
  | _ => none

def orNull? {α : Type} (read : Value → Option α) : Value → Option (Option α)
  | .null => some none
  | v => (read v).map some

end Value

end Moderation.Yaml
