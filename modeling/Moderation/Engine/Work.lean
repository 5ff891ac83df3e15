import Moderation.Effect
import Moderation.Regex.Compiled

/-!
Work of the engine: a computation that goes on from the patterns compiled so far and from what chance
brings, and whose effects come out as a list.
-/
namespace Moderation.Engine

abbrev Cache := List (String × Regex.Compiled)

/-- How often the clock is in time when an operation with a pattern looks at it; always, if there is no
number. -/
abbrev Looks := Option Nat

/-- The looks at the clock in the operations of one trial of a rule. -/
structure Pace where
  strip : Looks := none
  replaceBefore : Looks := none
  ignore : Looks := none
  erase : Looks := none
  search : Looks := none
  handler : Looks := none
  replacement : Looks := none
deriving DecidableEq, Repr

/-- The dice that decide between the alternatives of a rule. -/
structure Rolls where
  rewrite : Nat := 0
  replacement : Nat := 0
deriving DecidableEq, Repr

/-- What is left to chance in one trial of a rule. -/
structure Chance where
  pace : Pace := {}
  rolls : Rolls := {}
deriving DecidableEq, Repr

/-- What work goes on from. The clock and the dice tell of one trial of a rule after the other; after the
last one they tell of, everything is in time and the first alternatives are taken. -/
structure State where
  compiled : Cache := []
  clock : List Pace := []
  dice : List Rolls := []
deriving DecidableEq, Repr

namespace State

def chance (s : State) : Chance := ⟨s.clock.headD {}, s.dice.headD {}⟩

/-- The state once chance has brought something for a trial. -/
def drawn (s : State) : State := { s with clock := s.clock.tail, dice := s.dice.tail }

@[simp] theorem compiled_drawn (s : State) : s.drawn.compiled = s.compiled := rfl

end State

/-- What work comes to: its value, the state after it, and its effects. -/
structure Done (α : Type) where
  value : α
  state : State
  effects : List Effect
deriving DecidableEq, Repr

def Work (α : Type) : Type := State → Done α

namespace Work

def pure {α : Type} (a : α) : Work α := fun state => ⟨a, state, []⟩

/-- Work after work: the state goes on, and the effects come one after the other. -/
def bind {α β : Type} (w : Work α) (f : α → Work β) : Work β := fun state =>
  let a := w state
  let b := f a.value a.state
  ⟨b.value, b.state, a.effects ++ b.effects⟩

instance : Monad Work where
  pure := pure
  bind := bind

def draw : Work Chance := fun state => ⟨state.chance, state.drawn, []⟩

def emit (e : Effect) : Work Unit := fun state => ⟨(), state, [e]⟩

def emitAll (es : List Effect) : Work Unit := fun state => ⟨(), state, es⟩

def say (level : Level) (text : String) (fields : List (String × String)) : Work Unit :=
  emit (.log ⟨level, text, fields⟩)

@[simp] theorem pure_apply {α : Type} (a : α) (state : State) :
    (Pure.pure a : Work α) state = ⟨a, state, []⟩ := rfl

@[simp] theorem bind_apply {α β : Type} (w : Work α) (f : α → Work β) (state : State) :
    (w >>= f) state = ⟨(f (w state).value (w state).state).value,
      (f (w state).value (w state).state).state,
      (w state).effects ++ (f (w state).value (w state).state).effects⟩ := rfl

@[simp] theorem draw_apply (state : State) : draw state = ⟨state.chance, state.drawn, []⟩ := rfl

@[simp] theorem emit_apply (e : Effect) (state : State) : emit e state = ⟨(), state, [e]⟩ := rfl

@[simp] theorem emitAll_apply (es : List Effect) (state : State) :
    emitAll es state = ⟨(), state, es⟩ := rfl

instance : LawfulMonad Work := .mk' Work
  (fun w => by funext state; simp [Functor.map, bind, pure])
  (fun a f => by funext state; simp)
  (fun w f g => by funext state; simp)

@[simp] theorem map_apply {α β : Type} (f : α → β) (w : Work α) (state : State) :
    (f <$> w) state = ⟨f (w state).value, (w state).state, (w state).effects⟩ := by
  rw [← bind_pure_comp, bind_apply, pure_apply, List.append_nil]

end Work

end Moderation.Engine
