import Mathlib.Tactic.Lemma
import Moderation.Engine.Server

/-!
What the effects of work leave alone on a server: the rules, the state of the work, and all that the
work itself is done from. So work after work is work that is done in one go.
-/
namespace Moderation.Engine.Server

variable (s : Server) (e : Effect) (es : List Effect)

/-- An effect changes the host, the queue, the records and the counts, but not who is online. -/
structure SameGround (s s' : Server) : Prop where
  settings : s'.settings = s.settings
  rules : s'.rules = s.rules
  library : s'.library = s.library
  online : s'.host.online = s.host.online

lemma SameGround.refl : SameGround s s := ⟨rfl, rfl, rfl, rfl⟩

lemma SameGround.trans {s t u : Server} (h : SameGround s t) (h' : SameGround t u) :
    SameGround s u :=
  ⟨h'.settings.trans h.settings, h'.rules.trans h.rules, h'.library.trans h.library,
    h'.online.trans h.online⟩

lemma SameGround.context {s s' : Server} (h : SameGround s s') : s'.context = s.context := by
  simp only [Server.context, h.settings, h.library, h.online]

lemma sameGround_absorb : SameGround s (s.absorb e) := by
  obtain ⟨settings, rules, audit, time, state, host, queue, totals, journal, library, crashed⟩ := s
  cases e with
  | audit entry => cases audit <;> exact ⟨rfl, rfl, rfl, rfl⟩
  | act a => exact ⟨rfl, rfl, rfl, host.online_perform a⟩
  | later ticks a => exact ⟨rfl, rfl, rfl, rfl⟩
  | count c => exact ⟨rfl, rfl, rfl, rfl⟩
  | log entry => exact ⟨rfl, rfl, rfl, rfl⟩
  | crash => exact ⟨rfl, rfl, rfl, rfl⟩

/-- Effects change nothing about the ground of a server. -/
theorem sameGround_absorbAll : SameGround s (s.absorbAll es) := by
  induction es generalizing s with
  | nil => exact .refl s
  | cons e es ih => exact (s.sameGround_absorb e).trans (ih (s.absorb e))

/-- A server with its work in another state. -/
def withState (state : State) : Server := { s with state }

@[simp] theorem state_withState (state : State) : (s.withState state).state = state := rfl

@[simp] theorem withState_state : s.withState s.state = s := rfl

@[simp] theorem withState_withState (state state' : State) :
    (s.withState state).withState state' = s.withState state' := rfl

lemma sameGround_withState (state : State) : SameGround s (s.withState state) :=
  ⟨rfl, rfl, rfl, rfl⟩

/-- An effect neither sees nor changes the state of the work. -/
lemma absorb_withState (state : State) :
    (s.withState state).absorb e = (s.absorb e).withState state := by
  obtain ⟨settings, rules, audit, time, state', host, queue, totals, journal, library, crashed⟩ := s
  cases e with
  | audit entry => cases audit <;> rfl
  | act a => rfl
  | later ticks a => rfl
  | count c => rfl
  | log entry => rfl
  | crash => rfl

/-- Effects neither see nor change the state of the work. -/
theorem absorbAll_withState (state : State) :
    (s.withState state).absorbAll es = (s.absorbAll es).withState state := by
  induction es generalizing s with
  | nil => rfl
  | cons e es ih => exact (congrArg (absorbAll · es) (s.absorb_withState e state)).trans (ih _)

@[simp] theorem state_absorbAll : (s.absorbAll es).state = s.state := by
  have h := congrArg Server.state (s.absorbAll_withState es s.state)
  exact h

@[simp] theorem state_absorb : (s.absorb e).state = s.state := s.state_absorbAll [e]

@[simp] theorem say_nil : s.say [] = s := by
  simp [say]

variable {α β : Type} (w : Work α) (f : α → Work β)

/-- Work gives its value, has its effects, and leaves its state. -/
theorem run_eq :
    s.run w =
      ((w s.state).value, (s.absorbAll (w s.state).effects).withState (w s.state).state) :=
  Prod.ext rfl (s.absorbAll_withState ..)

/-- Work is done on the same ground after work. -/
theorem sameGround_run : SameGround s (s.run w).2 := by
  rw [run_eq]
  exact (s.sameGround_absorbAll _).trans (sameGround_withState ..)

@[simp] theorem run_pure (a : α) : s.run (pure a) = (a, s) := rfl

@[simp] theorem run_emit (e : Effect) : s.run (.emit e) = ((), s.absorb e) := rfl

/-- Work after work is done in one go. -/
theorem run_bind : s.run (w >>= f) = (s.run w).2.run (f (s.run w).1) := by
  simp only [run_eq, Work.bind_apply, state_withState, absorbAll_withState, withState_withState]
  simp only [absorbAll, List.foldl_append]

end Moderation.Engine.Server
