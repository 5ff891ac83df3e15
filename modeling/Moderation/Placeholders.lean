import Moderation.Actor

/-!
Templates of messages. A template names values in braces, and the values are put in one kind after
the other, so that a later kind may be named by an earlier value.
-/
namespace Moderation

/-- What stands for the name of a rule that has none. -/
def unnamedRule : String := "UNSET"

/-- The values that a template may name. The handler is named in its own templates only. -/
structure Placeholders where
  rule : String
  player : String
  world : String
  message : String
  handler : Option String
deriving DecidableEq, Repr

namespace Placeholders

def of (rule : Option String) (actor : Actor) (message : String) : Placeholders :=
  ⟨rule.getD unnamedRule, actor.name, actor.world, message, none⟩

def withHandler (p : Placeholders) (name : String) : Placeholders := { p with handler := some name }

/-- The names and their values in the order in which they are put in. -/
def substitutions (p : Placeholders) : List (String × String) :=
  [("\x7bruleID\x7d", p.rule), ("\x7bplayer\x7d", p.player), ("\x7bworld\x7d", p.world),
   ("\x7bmessage\x7d", p.message)] ++
    match p.handler with
    | some name => [("\x7bhandler\x7d", name)]
    | none => []

def fill (p : Placeholders) (template : String) : String :=
  p.substitutions.foldl (fun text s => Text.replace s.1 s.2 text) template

@[simp] theorem substitutions_withHandler (p : Placeholders) (name : String) :
    (p.withHandler name).substitutions =
      { p with handler := none }.substitutions ++ [("\x7bhandler\x7d", name)] := rfl

end Placeholders

end Moderation
