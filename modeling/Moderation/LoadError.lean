import Moderation.Error

/-!
Why rules or handlers cannot be loaded. Each cause holds what an operator needs to find the place.
-/
namespace Moderation

/-- A line of a file, counted from one. -/
structure Place where
  file : String
  line : Nat
deriving DecidableEq, Repr

def Place.title (p : Place) : String := p.file ++ ":" ++ toString p.line

/-- A cause of failure while rules or handlers are loaded. Rules occur in their short form. -/
inductive LoadError
  | operatorOutsideRule (place : Place) (text : String)
  | unknownOperator (place : Place) (text rule : String)
  | unknownPacketOperator (place : Place) (text rule : String)
  | duplicateDirective (place : Place) (directive rule : String)
  | duplicateRule (place : Place) (rule : String)
  | duplicateCategory (file : String)
  | malformed (place : Place) (text reason : String)
  | unknownHandler (place : Place) (name : String)
  | invalidHandler (name reason : String)
  | io (file : String)
  | yaml (file : String)
deriving DecidableEq, Repr

namespace LoadError

def message : LoadError → String
  | .operatorOutsideRule place text =>
    place.title ++ ": cannot define an operator when no rule is being created: '" ++ text ++ "'"
  | .unknownOperator place text rule =>
    place.title ++ ": unknown operator '" ++ text ++ "' in " ++ rule
  | .unknownPacketOperator place text rule =>
    place.title ++ ": unknown packet rule operator '" ++ text ++ "' in " ++ rule
  | .duplicateDirective place directive rule =>
    place.title ++ ": " ++ directive ++ " already set on " ++ rule
  | .duplicateRule place rule => place.title ++ ": " ++ place.file ++ " already contains " ++ rule
  | .duplicateCategory file => "rules from " ++ file ++ " are already loaded"
  | .malformed place text reason => place.title ++ ": malformed '" ++ text ++ "': " ++ reason
  | .unknownHandler place name => place.title ++ ": unknown handler '" ++ name ++ "'"
  | .invalidHandler name reason => "invalid handler '" ++ name ++ "': " ++ reason
  | .io file => "failed to access " ++ file
  | .yaml file => "failed to parse " ++ file

def toError (e : LoadError) : Error := .load e.message

end LoadError

end Moderation
