import Mathlib.Tactic.Lemma
import Moderation.Engine.Guard

/-!
Work seen from outside. A sound cache holds nothing but what compiling gives, and work that looks
into its cache for compiled patterns only comes to the same from every sound cache.
-/
namespace Moderation.Engine

namespace Cache
variable {b : Budget} {cache cache' : Cache}

/-- Whether every pattern of a cache is what compiling its source gives. -/
def Sound (b : Budget) (cache : Cache) : Prop :=
  ∀ source re, cache.lookup source = some re →
    Regex.compile? b.library b.backtracks source.toList = some re

@[simp] theorem sound_nil (b : Budget) : Cache.Sound b [] := by
  intro source re h
  simp at h

lemma Sound.cons {source : String} {re : Regex.Compiled} (hc : cache.Sound b)
    (hre : Regex.compile? b.library b.backtracks source.toList = some re) :
    Cache.Sound b ((source, re) :: cache) := by
  intro source' re' h
  rw [List.lookup_cons] at h
  by_cases hs : source' = source
  · subst hs
    simp only [BEq.rfl, Option.some.injEq] at h
    rw [hre, h]
  · have hb : (source' == source) = false := by simpa using hs
    rw [hb] at h
    exact hc source' re' h

/-- Caches between which no work can tell: they are equal, or both are sound. -/
def Alike (b : Budget) (cache cache' : Cache) : Prop :=
  cache = cache' ∨ cache.Sound b ∧ cache'.Sound b

end Cache

/-- The effects that can be seen outside the log. -/
def visible (es : List Effect) : List Effect := es.filter Effect.isVisible

@[simp] theorem visible_nil : visible [] = [] := rfl

@[simp] theorem visible_append (es fs : List Effect) :
    visible (es ++ fs) = visible es ++ visible fs := List.filter_append ..

@[simp] theorem visible_cons (e : Effect) (es : List Effect) :
    visible (e :: es) = if e.isVisible then e :: visible es else visible es := List.filter_cons

/-- What work comes to, without what it logs. -/
def Done.shown {α : Type} (d : Done α) : Done α := { d with effects := visible d.effects }

namespace Work
variable {α β : Type} {b : Budget}

/-- What is seen of work outside its state and the log. -/
def seen (w : Work α) (state : State) : α × List Effect :=
  ((w state).value, visible (w state).effects)

/-- What is seen of work, and what is compiled after it. -/
def outcome (w : Work α) (state : State) : (α × List Effect) × Cache :=
  (w.seen state, (w state).state.compiled)

/-- Work that comes to the same whatever was compiled before it, that compiles nothing wrong, and that
takes nothing from chance. -/
structure IgnoresCache (b : Budget) (w : Work α) : Prop where
  value_eq : ∀ {s s' : State}, s.compiled.Alike b s'.compiled → (w s).value = (w s').value
  effects_eq : ∀ {s s' : State}, s.compiled.Alike b s'.compiled → (w s).effects = (w s').effects
  compiled_eq : ∀ {s s' : State}, s.compiled = s'.compiled → (w s).state.compiled = (w s').state.compiled
  sound : ∀ {s : State}, s.compiled.Sound b → (w s).state.compiled.Sound b
  clock_eq : ∀ s : State, (w s).state.clock = s.clock
  dice_eq : ∀ s : State, (w s).state.dice = s.dice

namespace IgnoresCache

lemma alike {w : Work α} (hw : w.IgnoresCache b) {s s' : State} (h : s.compiled.Alike b s'.compiled) :
    (w s).state.compiled.Alike b (w s').state.compiled :=
  h.imp hw.compiled_eq fun hsound => ⟨hw.sound hsound.1, hw.sound hsound.2⟩

/-- From any two caches that are alike the same is seen. -/
theorem seen_eq {w : Work α} (hw : w.IgnoresCache b) {s s' : State}
    (h : s.compiled.Alike b s'.compiled) : w.seen s = w.seen s' := by
  simp only [seen, hw.value_eq h, hw.effects_eq h]

theorem pure (a : α) : IgnoresCache b (Pure.pure a) where
  value_eq _ := rfl
  effects_eq _ := rfl
  compiled_eq h := h
  sound h := h
  clock_eq _ := rfl
  dice_eq _ := rfl

theorem emitAll (es : List Effect) : IgnoresCache b (.emitAll es) where
  value_eq _ := rfl
  effects_eq _ := rfl
  compiled_eq h := h
  sound h := h
  clock_eq _ := rfl
  dice_eq _ := rfl

theorem emit (e : Effect) : IgnoresCache b (.emit e) := .emitAll [e]

theorem say (level : Level) (text : String) (fields : List (String × String)) :
    IgnoresCache b (.say level text fields) := .emit _

/-- The cache between two pieces of work does not matter to the second. -/
theorem bind {w : Work α} {f : α → Work β} (hw : w.IgnoresCache b)
    (hf : ∀ a, (f a).IgnoresCache b) : IgnoresCache b (w >>= f) where
  value_eq h := by
    simp only [bind_apply]
    rw [hw.value_eq h, (hf _).value_eq (hw.alike h)]
  effects_eq h := by
    simp only [bind_apply]
    rw [hw.value_eq h, hw.effects_eq h, (hf _).effects_eq (hw.alike h)]
  compiled_eq h := by
    simp only [bind_apply]
    rw [hw.value_eq (.inl h), (hf _).compiled_eq (hw.compiled_eq h)]
  sound h := by
    simp only [bind_apply]
    exact (hf _).sound (hw.sound h)
  clock_eq s := by
    simp only [bind_apply]
    rw [(hf _).clock_eq, hw.clock_eq]
  dice_eq s := by
    simp only [bind_apply]
    rw [(hf _).dice_eq, hw.dice_eq]

theorem map {w : Work α} (hw : w.IgnoresCache b) (f : α → β) : IgnoresCache b (f <$> w) := by
  rw [map_eq_pure_bind]
  exact hw.bind fun _ => .pure _

theorem ite {w v : Work α} {p : Prop} [Decidable p] (hw : w.IgnoresCache b)
    (hv : v.IgnoresCache b) : IgnoresCache b (if p then w else v) := by
  split
  · exact hw
  · exact hv

end IgnoresCache

@[simp] theorem seen_pure (a : α) (state : State) : (Pure.pure a : Work α).seen state = (a, []) :=
  rfl

@[simp] theorem seen_draw (state : State) : draw.seen state = (state.chance, []) := rfl

/-- The log is not seen. -/
@[simp] theorem seen_say (level : Level) (text : String) (fields : List (String × String))
    (state : State) : (say level text fields).seen state = ((), []) := rfl

end Work

/-! ### Work after work, as it is seen -/

section Chain
variable {α β : Type}

/-- What is seen first, and then what is seen of what comes after its value. -/
def chain (a : α × List Effect) (f : α → β × List Effect) : β × List Effect :=
  ((f a.1).1, a.2 ++ (f a.1).2)

@[simp] theorem chain_nil (a : α) (f : α → β × List Effect) : chain (a, []) f = f a := by
  simp [chain]

lemma Work.seen_bind (w : Work α) (f : α → Work β) (state : State) :
    (w >>= f).seen state = chain (w.seen state) fun a => (f a).seen (w state).state := by
  simp [seen, chain]

/-- From a fresh start the second piece of work might as well have started afresh. -/
theorem Work.IgnoresCache.seen_bind {b : Budget} {w : Work α} {f : α → Work β}
    (hw : w.IgnoresCache b) (hf : ∀ a, (f a).IgnoresCache b) :
    (w >>= f).seen {} = chain (w.seen {}) fun a => (f a).seen {} := by
  have hfresh : Cache.Sound b ({} : State).compiled := Cache.sound_nil b
  have hnext := (hf (w.seen {}).1).seen_eq (.inr ⟨hw.sound hfresh, hfresh⟩)
  rw [Work.seen_bind]
  exact congrArg (fun seen : β × List Effect => (seen.1, (w.seen {}).2 ++ seen.2)) hnext

lemma Work.seen_emitAll_bind (es : List Effect) (f : Unit → Work α) (state : State) :
    (Work.emitAll es >>= f).seen state = chain ((), visible es) fun a => (f a).seen state :=
  seen_bind ..

end Chain

/-! ### Work that takes from chance -/

/-- States between which the work on rules cannot tell: their caches are alike and chance brings the
same, the dice apart if the rules are settled. -/
structure State.Alike (b : Budget) (settled : Prop) (s s' : State) : Prop where
  compiled : s.compiled.Alike b s'.compiled
  clock : s.clock = s'.clock
  dice : settled ∨ s.dice = s'.dice

/-- Whether all that was compiled is what compiling gives, and all trials of rules have the same time: it
is never short, or there is none. -/
structure State.Steady (b : Budget) (s : State) : Prop where
  compiled : s.compiled.Sound b
  clock : s.clock = []

lemma State.steady_nil (b : Budget) : State.Steady b {} := ⟨Cache.sound_nil b, rfl⟩

/-- From any two steady states work on settled rules comes to the same. -/
lemma State.Steady.alike {b : Budget} {s s' : State} (h : s.Steady b) (h' : s'.Steady b) :
    s.Alike b True s' :=
  ⟨.inr ⟨h.compiled, h'.compiled⟩, h.clock.trans h'.clock.symm, .inl trivial⟩

namespace Work
variable {α β : Type} {b : Budget} {settled : Prop}

/-- Work that comes to the same from states that are alike. -/
structure Respects (b : Budget) (settled : Prop) (w : Work α) : Prop where
  value_eq : ∀ {s s' : State}, s.Alike b settled s' → (w s).value = (w s').value
  effects_eq : ∀ {s s' : State}, s.Alike b settled s' → (w s).effects = (w s').effects
  alike : ∀ {s s' : State}, s.Alike b settled s' → (w s).state.Alike b settled (w s').state
  compiled_eq : ∀ {s s' : State}, s.Alike b settled s' → s.compiled = s'.compiled →
    (w s).state.compiled = (w s').state.compiled
  sound : ∀ {s : State}, s.compiled.Sound b → (w s).state.compiled.Sound b
  clock_nil : ∀ {s : State}, s.clock = [] → (w s).state.clock = []

namespace Respects

lemma steady {w : Work α} (hw : w.Respects b settled) {s : State} (h : s.Steady b) :
    (w s).state.Steady b :=
  ⟨hw.sound h.compiled, hw.clock_nil h.clock⟩

theorem seen_eq {w : Work α} (hw : w.Respects b settled) {s s' : State} (h : s.Alike b settled s') :
    w.seen s = w.seen s' := by
  simp only [seen, hw.value_eq h, hw.effects_eq h]

theorem outcome_eq {w : Work α} (hw : w.Respects b settled) {s s' : State}
    (h : s.Alike b settled s') (hc : s.compiled = s'.compiled) : w.outcome s = w.outcome s' := by
  simp only [outcome, hw.seen_eq h, hw.compiled_eq h hc]

theorem bind {w : Work α} {f : α → Work β} (hw : w.Respects b settled)
    (hf : ∀ a, (f a).Respects b settled) : Respects b settled (w >>= f) where
  value_eq h := by
    simp only [bind_apply]
    rw [hw.value_eq h, (hf _).value_eq (hw.alike h)]
  effects_eq h := by
    simp only [bind_apply]
    rw [hw.value_eq h, hw.effects_eq h, (hf _).effects_eq (hw.alike h)]
  alike h := by
    simp only [bind_apply]
    rw [hw.value_eq h]
    exact (hf _).alike (hw.alike h)
  compiled_eq h hc := by
    simp only [bind_apply]
    rw [hw.value_eq h]
    exact (hf _).compiled_eq (hw.alike h) (hw.compiled_eq h hc)
  sound h := by
    simp only [bind_apply]
    exact (hf _).sound (hw.sound h)
  clock_nil h := by
    simp only [bind_apply]
    exact (hf _).clock_nil (hw.clock_nil h)

theorem ite {w v : Work α} {p : Prop} [Decidable p] (hw : w.Respects b settled)
    (hv : v.Respects b settled) : Respects b settled (if p then w else v) := by
  split
  · exact hw
  · exact hv

end Respects

theorem IgnoresCache.respects {w : Work α} (hw : w.IgnoresCache b) : w.Respects b settled where
  value_eq h := hw.value_eq h.compiled
  effects_eq h := hw.effects_eq h.compiled
  alike {s s'} h := by
    refine ⟨hw.alike h.compiled, ?_, ?_⟩
    · rw [hw.clock_eq, hw.clock_eq, h.clock]
    · rw [hw.dice_eq, hw.dice_eq]
      exact h.dice
  compiled_eq _ hc := hw.compiled_eq hc
  sound := hw.sound
  clock_nil {s} h := (hw.clock_eq s).trans h

namespace Respects

theorem pure (a : α) : Respects b settled (Pure.pure a) := (IgnoresCache.pure a).respects

theorem map {w : Work α} (hw : w.Respects b settled) (f : α → β) : Respects b settled (f <$> w) := by
  rw [map_eq_pure_bind]
  exact hw.bind fun _ => .pure _

/-- What is done with what chance brings must not depend on the dice, if these may differ. -/
theorem draw_bind {f : Chance → Work α} (hf : ∀ chance, (f chance).Respects b settled)
    (hdice : settled → ∀ pace rolls rolls', f ⟨pace, rolls⟩ = f ⟨pace, rolls'⟩) :
    Respects b settled (draw >>= f) := by
  have hdrawn {s s' : State} (h : s.Alike b settled s') : s.drawn.Alike b settled s'.drawn :=
    ⟨h.compiled, congrArg List.tail h.clock, h.dice.imp_right (congrArg List.tail)⟩
  have hsame {s s' : State} (h : s.Alike b settled s') : f s.chance = f s'.chance := by
    rw [State.chance, State.chance, h.clock]
    obtain hsettled | hdice' := h.dice
    · exact hdice hsettled ..
    · rw [hdice']
  constructor
  case value_eq =>
    intro s s' h
    simp only [bind_apply, draw_apply, hsame h]
    exact (hf _).value_eq (hdrawn h)
  case effects_eq =>
    intro s s' h
    simp only [bind_apply, draw_apply, hsame h, List.nil_append]
    exact (hf _).effects_eq (hdrawn h)
  case alike =>
    intro s s' h
    simp only [bind_apply, draw_apply, hsame h]
    exact (hf _).alike (hdrawn h)
  case compiled_eq =>
    intro s s' h hc
    simp only [bind_apply, draw_apply, hsame h]
    exact (hf _).compiled_eq (hdrawn h) hc
  case sound =>
    intro s h
    simp only [bind_apply, draw_apply]
    exact (hf _).sound h
  case clock_nil =>
    intro s h
    simp only [bind_apply, draw_apply]
    exact (hf _).clock_nil (congrArg List.tail h)

end Respects

end Work

end Moderation.Engine
