import Moderation.Number.Width
import Moderation.Yaml.Node
import Moderation.Yaml.Scalar

/-!
Records of settings in a document. What a scalar stands for is decided by the field that it is given
for: a text takes any scalar as it is written, a number only digits.
-/
namespace Moderation.Yaml.Node

/-- The scalar that is not there counts as an empty collection of either kind. -/
def isEmpty : Node → Bool
  | .scalar _ .plain text => text == ""
  | _ => false

def items? : Node → Option (List Node)
  | .sequence _ items => some items
  | n => if n.isEmpty then some [] else none

def entries? : Node → Option (List (Node × Node))
  | .mapping _ entries => some entries
  | n => if n.isEmpty then some [] else none

def text? : Node → Option String
  | .scalar _ _ text => some text
  | _ => none

/-- The text of a scalar that may be of a kind other than text: a plain one, or a literal one with
the tag of the kind. -/
def bareText? (kind : String) : Node → Option String
  | .scalar tag style text =>
    if style = .plain ∨ (style = .literal ∧ tag = some kind) then some text else none
  | _ => none

def boolean? (n : Node) : Option Bool := (n.bareText? boolTag).bind Yaml.boolean?

/-- A natural number of so many bits. -/
def natural? (bits : Nat) (n : Node) : Option Nat :=
  ((n.bareText? intTag).bind fun text => positive? text.toList).filter (fits bits)

def wide? (n : Node) : Option Nat := n.natural? 64

def narrow? (n : Node) : Option Nat := n.natural? 32

def texts? (n : Node) : Option (List String) := n.items?.bind fun items => items.mapM text?

/-- A record: named fields, of which those with a given name occur at most once. -/
def record? (names : List String) (n : Node) : Option (List (String × Node)) := do
  let fields ← (← n.entries?).mapM fun (key, value) => key.text?.map (·, value)
  if names.all fun name => (fields.filter (·.1 == name)).length ≤ 1 then some fields else none

/-- A field of a record, or a default if it is not there. -/
def field? {α : Type} (fields : List (String × Node)) (name : String) (read : Node → Option α)
    (default : α) : Option α :=
  match fields.lookup name with
  | some value => read value
  | none => some default

def required? {α : Type} (fields : List (String × Node)) (name : String) (read : Node → Option α) :
    Option α :=
  (fields.lookup name).bind read

@[simp] theorem field?_nil {α : Type} (name : String) (read : Node → Option α) (default : α) :
    field? [] name read default = some default := rfl

@[simp] theorem record?_empty (names : List String) : empty.record? names = some [] := by
  have h : empty.entries? = some [] := rfl
  simp [record?, h]

end Moderation.Yaml.Node
