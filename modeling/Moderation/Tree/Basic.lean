/-!
Trees of texts, lists, objects and values that are no texts. The components of a chat message are such a
tree.
-/
namespace Moderation

/-- A value that is no text and holds none. A number is a whole one over a power of ten. -/
inductive Atom
  | null
  | boolean (b : Bool)
  | number (mantissa : Int) (places : Nat)
deriving DecidableEq, Repr

/-- A tree. The entries of an object are in the order of their keys. -/
inductive Tree
  | atom (a : Atom)
  | text (s : String)
  | list (items : List Tree)
  | object (entries : List (String × Tree))
deriving Repr

namespace Tree

instance : Inhabited Tree := ⟨.atom .null⟩

mutual

/-- The texts of a tree from first to last. -/
def texts : Tree → List String
  | .atom _ => []
  | .text s => [s]
  | .list items => textsOfItems items
  | .object entries => textsOfEntries entries

def textsOfItems : List Tree → List String
  | [] => []
  | t :: ts => t.texts ++ textsOfItems ts

def textsOfEntries : List (String × Tree) → List String
  | [] => []
  | (_, t) :: es => t.texts ++ textsOfEntries es

end

@[simp] theorem texts_text (s : String) : (text s).texts = [s] := by simp [texts]
@[simp] theorem texts_atom (a : Atom) : (atom a).texts = [] := by simp [texts]

end Tree

end Moderation
