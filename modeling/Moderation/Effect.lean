import Moderation.Audit
import Moderation.Log
import Moderation.Metrics

/-!
Effects: what the engine asks of the server and leaves in its records, in the order in which it
happens.
-/
namespace Moderation

/-- Something that the server does: a message to one player or to all, a command of the console, or
taking money from a player. -/
inductive Action
  | tell (player message : String)
  | broadcast (message : String)
  | command (command : String)
  | withdraw (player : String) (amount : Binary64)
deriving DecidableEq, Repr

/-- An effect. An action comes at once, or after a number of ticks. A crash ends the program, and effects
after it do not take place. -/
inductive Effect
  | act (action : Action)
  | later (ticks : Nat) (action : Action)
  | audit (entry : AuditEntry)
  | count (counter : Counter)
  | log (entry : LogEntry)
  | crash
deriving DecidableEq, Repr

/-- Whether an effect can be seen outside the log. -/
def Effect.isVisible : Effect → Bool
  | .log _ => false
  | _ => true

end Moderation
