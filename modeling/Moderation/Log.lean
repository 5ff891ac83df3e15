/-!
Log entries: what is said to the operator of the server about the work of the library.
-/
namespace Moderation

inductive Level
  | debug
  | info
  | warn
deriving DecidableEq, Repr

def Level.label : Level → String
  | .debug => "DEBUG"
  | .info => "INFO"
  | .warn => "WARN"

/-- A log entry: a text and named values beside it. -/
structure LogEntry where
  level : Level
  text : String
  fields : List (String × String)
deriving DecidableEq, Repr

end Moderation
