import Moderation.Actor
import Moderation.Effect

/-!
The server as the engine sees it: who is online, what was said and done, and what is still to be done.
-/
namespace Moderation

/-- The players online, the last one to join at the end, and what was done so far. A player who is
not online is told nothing. -/
structure Host where
  online : List Actor := []
  told : List (String × String) := []
  broadcasts : List String := []
  commands : List String := []
  withdrawals : List (String × Binary64) := []
deriving DecidableEq, Repr

namespace Host

def isOnline (h : Host) (name : String) : Bool := h.online.any (·.name == name)

def quit (h : Host) (name : String) : Host :=
  { h with online := h.online.filter (·.name != name) }

/-- A player joins; one of the same name leaves. -/
def join (h : Host) (a : Actor) : Host := { h.quit a.name with online := (h.quit a.name).online ++ [a] }

def perform (h : Host) : Action → Host
  | .tell player message =>
    if h.isOnline player then { h with told := h.told ++ [(player, message)] } else h
  | .broadcast message => { h with broadcasts := h.broadcasts ++ [message] }
  | .command command => { h with commands := h.commands ++ [command] }
  | .withdraw player amount => { h with withdrawals := h.withdrawals ++ [(player, amount)] }

def messagesFor (h : Host) (name : String) : List String :=
  (h.told.filter (·.1 == name)).map (·.2)

@[simp] theorem online_perform (h : Host) (a : Action) : (h.perform a).online = h.online := by
  cases a <;> simp only [perform]
  split <;> rfl

@[simp] theorem isOnline_quit (h : Host) (name : String) : (h.quit name).isOnline name = false := by
  simp [isOnline, quit]

@[simp] theorem isOnline_join (h : Host) (a : Actor) : (h.join a).isOnline a.name = true := by
  simp [isOnline, join]

end Host

/-- What happened on a server, in order. A message may have found nobody. -/
inductive Event
  | told (player message : String) (delivered : Bool)
  | broadcast (message : String)
  | command (command : String)
  | withdrawn (player : String) (amount : Binary64)
  | queued (ticks : Nat)
  | audited (entry : AuditEntry)
deriving DecidableEq, Repr

def Host.event (h : Host) : Action → Event
  | .tell player message => .told player message (h.isOnline player)
  | .broadcast message => .broadcast message
  | .command command => .command command
  | .withdraw player amount => .withdrawn player amount

end Moderation
