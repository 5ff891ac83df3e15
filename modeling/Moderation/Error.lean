/-!
Why an operation of the library fails as a whole.
-/
namespace Moderation

/-- A failure: rules or handlers that cannot be loaded, settings that make no sense, a file that
cannot be used, a document that cannot be read, or a call at a wrong time. -/
inductive Error
  | load (text : String)
  | config (text : String)
  | io
  | yaml
  | misuse (text : String)
deriving DecidableEq, Repr

def Error.message : Error → String
  | .load text => "load error: " ++ text
  | .config text => "configuration error: " ++ text
  | .io => "io error"
  | .yaml => "yaml error"
  | .misuse text => "internal error: " ++ text

end Moderation
