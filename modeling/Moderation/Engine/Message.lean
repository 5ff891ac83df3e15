import Moderation.Actor
import Moderation.Category
import Moderation.Effect
import Moderation.Text.Color

/-!
Messages and commands as rules and handlers send them.
-/
namespace Moderation.Engine
open Moderation.Text

/-- A message that comes after the message of the player. -/
def tellLater (player message : String) : Effect := .later 1 (.tell player message)

/-- A command of the console on the next tick. -/
def commandLater (command : String) : Effect := .later 0 (.command command)

def tellWhen (now : Bool) (player message : String) : Effect :=
  if now then .act (.tell player message) else tellLater player message

/-- What stands before messages about a sign whose place is known. -/
def signPrefix (kind : EventKind) (actor : Actor) : String :=
  match kind, actor.location with
  | .sign, some l => "[Sign - " ++ l.title ++ "] "
  | _, _ => ""

/-- A command with the player and the text put in, unless it says that there is none. -/
def customCommand (actor : Actor) (text command : String) : List Effect :=
  if command = "" ∨ saysNone command then []
  else
    let command := replace "\x7bplayer\x7d" actor.name command
    [commandLater (colorize (replace "\x7bmessage\x7d" text command))]

@[simp] theorem customCommand_empty (actor : Actor) (text : String) :
    customCommand actor text "" = [] := rfl

end Moderation.Engine
