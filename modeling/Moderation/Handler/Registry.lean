import Moderation.Handler.Definition

/-!
The handlers of a server, in the order of their names.
-/
namespace Moderation
open Moderation.Yaml

/-- Handlers, each under another name, in ascending order of names. -/
structure Registry where
  handlers : List Handler := []
deriving DecidableEq, Repr

namespace Registry

def find? (r : Registry) (name : String) : Option Handler :=
  r.handlers.find? fun h => h.name == name

def names (r : Registry) : List String := r.handlers.map (·.name)

/-- The handlers that definitions in the order of their names give. The first one that is refused is
reported. -/
def ofDefinitions (ds : List (String × HandlerDefinition)) : Except LoadError Registry := do
  return ⟨← ds.mapM fun (name, d) => d.toHandler name⟩

/-- The handlers that a document defines. A text of blanks, and a document that is null, define
none. `file` names the origin of the text in errors. -/
def ofText (file text : String) : Except LoadError Registry :=
  if Text.trimmed text = "" then .ok {}
  else match Value.ofText? text.toList with
    | some .null => .ok {}
    | some (.mapping entries) =>
      match entries.mapM fun (name, v) => (HandlerDefinition.ofValue? v).map (name, ·) with
      | some ds => ofDefinitions (ds.mergeSort fun a b => decide (a.1 ≤ b.1))
      | none => .error (.yaml file)
    | _ => .error (.yaml file)

@[simp] theorem find?_empty (name : String) : ({} : Registry).find? name = none := rfl

theorem name_of_find? {r : Registry} {name : String} {h : Handler} (hf : r.find? name = some h) :
    h.name = name := by
  simpa using List.find?_some hf

end Registry

end Moderation
