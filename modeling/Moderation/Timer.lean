import Moderation.Error
import Moderation.Number.Width

/-!
A timer that runs tasks after a number of ticks. A task is due as soon as its time has passed; what is
due runs in the order of its time, and in the order of arrival at the same time.
-/
namespace Moderation

/-- The length of a tick in milliseconds. -/
def tickLength : Nat := 50

/-- The time after which a task is due. No delay is longer than as many ticks as thirty-two bits can
count. -/
def delayOf (ticks : Nat) : Nat := tickLength * min ticks (valuesOf 32 - 1)

/-- The time that has passed, and the tasks that wait with the time at which they are due. -/
structure Timer (α : Type) where
  now : Nat := 0
  waiting : List (Nat × α) := []
deriving DecidableEq, Repr

namespace Timer

variable {α : Type}

/-- A timer that begins at the time of a clock. Without a clock there is none. -/
def ofClock : Option Nat → Except Error (Timer α)
  | some now => .ok { now }
  | none => .error (.misuse "there is no clock")

/-- The tasks that are due, and the timer without them. -/
def fire (t : Timer α) : List α × Timer α :=
  let due := t.waiting.filter fun w => w.1 ≤ t.now
  ((due.mergeSort fun a b => a.1 ≤ b.1).map (·.2),
    { t with waiting := t.waiting.filter fun w => !(w.1 ≤ t.now) })

/-- Add a task; one without delay is due at once. -/
def schedule (t : Timer α) (ticks : Nat) (task : α) : List α × Timer α :=
  fire { t with waiting := t.waiting ++ [(t.now + delayOf ticks, task)] }

def advance (t : Timer α) (milliseconds : Nat) : List α × Timer α :=
  fire { t with now := t.now + milliseconds }

theorem now_lt_of_mem_waiting_fire {t : Timer α} {w : Nat × α} (h : w ∈ t.fire.2.waiting) :
    t.now < w.1 := by
  simp only [fire, List.mem_filter] at h
  simpa using h.2

end Timer

end Moderation
