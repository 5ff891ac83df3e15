import Moderation.Audit
import Moderation.Disk
import Moderation.Log
import Moderation.Text.Color

/-!
Log files: every line of a message becomes a line of the file, with a time before it and the name of a
player if there is one.
-/
namespace Moderation
open Moderation.Text

/-- Where log files are, and whether formatting codes are left out of them. -/
structure WriterSettings where
  base : String := "."
  stripColors : Bool := true
deriving DecidableEq, Repr

/-- The lines of a message: without the blanks around it, there is at least one. -/
def messageLines (message : String) : List String := parts '\n' (trimmed message)

def stampedLine (time : String) (player : Option String) (line : String) : String :=
  "[" ++ time ++ "] " ++
    (match player with
    | some name => name ++ ": " ++ line
    | none => line) ++ "\n"

namespace WriterSettings

/-- What is added to a log file for a message. Formatting codes are left out of the message if the
settings say so. -/
def entryText (w : WriterSettings) (time : String) (player : Option String) (message : String) :
    String :=
  let message := if w.stripColors then Text.stripColors message else message
  String.join ((messageLines message).map (stampedLine time player))

/-- The path of a log file: the given path if it begins at the root, and otherwise the base with the
given path behind it. -/
def resolve (w : WriterSettings) (path : String) : String :=
  if beginsWith "/" path then path
  else if w.base.toList.getLast?.all (· == '/') then w.base ++ path
  else w.base ++ "/" ++ path

/-- Add a message to a log file. The entry says that it was done; none if it could not be done. -/
def write (w : WriterSettings) (time path : String) (player : Option String) (message : String)
    (d : Disk) : Disk × Option LogEntry :=
  let path := w.resolve path
  let (d, written) := d.append path (w.entryText time player message)
  (d, if written then some ⟨.debug, "Appended log entry", [("path", path)]⟩ else none)

/-- Write an audit entry to the file for its kind. That it could not be written is logged. -/
def record (w : WriterSettings) (time : String) (e : AuditEntry) (d : Disk) : Disk × LogEntry :=
  let (d, done) := w.write time e.kind.target e.actor e.message d
  (d, done.getD ⟨.warn, "Failed to write audit entry",
    [("target_file", e.kind.target), ("error", "the file cannot be written")]⟩)

end WriterSettings

theorem messageLines_ne_nil (message : String) : messageLines message ≠ [] := by
  simp [messageLines, parts]

end Moderation
