import Moderation.Handler.Basic
import Moderation.LoadError
import Moderation.Text.Basic
import Moderation.Yaml.Value

/-!
Definitions of handlers as they are written, and the checks that a definition passes before it becomes
a handler: at most one outcome, a permission for every alert, and no fine below zero.
-/
namespace Moderation
open Moderation.Yaml

/-- A handler as it is written, under its name. -/
structure HandlerDefinition where
  bypass : Option String := none
  warning : Option String := none
  broadcast : Option String := none
  alertMessage : Option String := none
  alertPermission : Option String := none
  console : Option String := none
  file : Option String := none
  blocks : Bool := false
  replaceWord : Option String := none
  replaceWhole : Option String := none
  commands : Option (List String) := none
  ignoredCommands : Option (List String) := none
  fine : Option Binary64 := none
deriving DecidableEq, Repr

/-- A text that is given: not an empty one, and not the word for none. -/
def given (text : Option String) : Option String :=
  text.filter fun s => !(s == "") && !Text.saysNone s

namespace HandlerDefinition

def fieldNames : List String :=
  ["Bypass_With_Permission", "Player_Warn_Message", "Broadcast_Message", "Staff_Alert_Message",
   "Staff_Alert_Permission", "Console_Message", "Write_To_File", "Block_Message", "Replace_Word",
   "Replace_Whole", "Execute_Commands", "Ignored_In_Commands", "Fine"]

/-- The definition that a value gives. There are no other fields, and the value null is an empty
definition. -/
def ofValue? : Value → Option HandlerDefinition
  | .null => some {}
  | .mapping entries => do
    if !entries.all fun e => fieldNames.contains e.1 then none
    else
      let optional {α : Type} (name : String) (read : Value → Option α) : Option (Option α) :=
        match entries.lookup name with
        | some v => Value.orNull? read v
        | none => some none
      return {
        bypass := ← optional "Bypass_With_Permission" Value.text?
        warning := ← optional "Player_Warn_Message" Value.text?
        broadcast := ← optional "Broadcast_Message" Value.text?
        alertMessage := ← optional "Staff_Alert_Message" Value.text?
        alertPermission := ← optional "Staff_Alert_Permission" Value.text?
        console := ← optional "Console_Message" Value.text?
        file := ← optional "Write_To_File" Value.text?
        blocks := ← match entries.lookup "Block_Message" with
          | some v => v.boolean?
          | none => some false
        replaceWord := ← optional "Replace_Word" Value.text?
        replaceWhole := ← optional "Replace_Whole" Value.text?
        commands := ← optional "Execute_Commands" Value.texts?
        ignoredCommands := ← optional "Ignored_In_Commands" Value.texts?
        fine := ← optional "Fine" Value.number? }
  | _ => none

/-- What becomes of the text. Blocking excludes both kinds of replacement, and these exclude each
other. -/
def outcome (d : HandlerDefinition) : Except String Outcome :=
  match d.blocks, given d.replaceWord, given d.replaceWhole with
  | true, none, none => .ok .block
  | true, _, _ => .error "Block_Message cannot be combined with Replace_Word or Replace_Whole"
  | false, some _, some _ => .error "Replace_Word and Replace_Whole cannot both be set"
  | false, some word, none => .ok (.replaceWord word)
  | false, none, some text => .ok (.replaceWhole text)
  | false, none, none => .ok .pass

def alert (d : HandlerDefinition) : Except String (Option StaffAlert) :=
  match given d.alertMessage, given d.alertPermission with
  | some message, some permission => .ok (some ⟨message, permission⟩)
  | some _, none => .error "Staff_Alert_Message requires Staff_Alert_Permission"
  | none, _ => .ok none

/-- The fine, which is not below zero. -/
def checkedFine (d : HandlerDefinition) : Except String (Option Binary64) :=
  match d.fine with
  | none => .ok none
  | some x =>
    if x.isFiniteNonNegative then .ok (some x)
    else .error ("Fine must be a non-negative number, got " ++ x.toText)

/-- The handler that is defined under a name, or why the definition is refused. -/
def toHandler (name : String) (d : HandlerDefinition) : Except LoadError Handler :=
  let checked : Except String Handler := do
    let outcome ← d.outcome
    let alert ← d.alert
    let fine ← d.checkedFine
    return {
      name, outcome, alert, fine
      bypass := given d.bypass
      ignoredCommands := d.ignoredCommands.getD []
      warning := given d.warning
      broadcast := given d.broadcast
      console := given d.console
      commands := d.commands.getD []
      file := given d.file }
  checked.mapError (.invalidHandler name)

@[simp] theorem toHandler_empty (name : String) :
    ({} : HandlerDefinition).toHandler name = .ok { name } := rfl

end HandlerDefinition

@[simp] theorem given_none : given none = none := rfl

end Moderation
