import Moderation.Proofs.Engine.Turns

/-!
When warnings come. The warning of a rule comes at once if the rule holds the text back, and after
the message of the player if it does not. The warning of a handler comes at once only if the handler
itself blocks. So it comes late where something else than the handler's own block ends the
evaluation.
-/
namespace Moderation.Engine

lemma tellWhen_inj {now now' : Bool} {player message message' : String}
    (h : tellWhen now player message = tellWhen now' player message') : now = now' := by
  cases now <;> cases now' <;> simp [tellWhen, tellLater] at h ⊢

/-- Effects that are messages to a player which come at once or after the message of the player, all
of them the one or all of them the other. -/
def Timed (now : Bool) (player : String) (es : List Effect) : Prop :=
  ∀ e ∈ es, ∃ message, e = tellWhen now player message

lemma Timed.iff_eq {now now' : Bool} {player : String} {es : List Effect} (h : Timed now player es) :
    Timed now' player es ↔ now = now' ∨ es = [] := by
  constructor
  · intro h'
    cases es with
    | nil => exact .inr rfl
    | cons e es =>
      obtain ⟨message, he⟩ := h e List.mem_cons_self
      obtain ⟨message', he'⟩ := h' e List.mem_cons_self
      exact .inl (tellWhen_inj (he.symm.trans he'))
  · rintro (rfl | rfl)
    · exact h
    · exact List.forall_mem_nil _

lemma timed_append {now : Bool} {player : String} {es fs : List Effect} :
    Timed now player (es ++ fs) ↔ Timed now player es ∧ Timed now player fs :=
  List.forall_mem_append

namespace Context
variable (ctx : Context) (kind : EventKind) (actor : Actor)

/-- Whether a turn ends the evaluation and holds the text back. -/
def cancels (t : Turn) : Bool := ctx.stops kind actor t || t.rule.cancels

/-- Whether a handler that blocks acts in a turn. -/
def blocks (t : Turn) : Bool := (t.rule.acting? kind actor t.found).any Handler.blocks

/-- The warning of the handler in a turn. -/
def handlerWarnings (t : Turn) : List Effect := ctx.deedsOf kind actor t .handlerWarning t.found

/-- The warning of the rule in a turn; there is none after a handler that ends the evaluation. -/
def ruleWarnings (t : Turn) : List Effect :=
  if ctx.stops kind actor t then [] else ctx.deedsOf kind actor t .warning t.left

variable {ctx kind actor}

lemma Follows.cancelled_eq {text : String} {scope : Scope} {ts : List Turn} {value : Evaluation}
    (h : ctx.Follows kind actor text scope ts value) :
    value.cancelled = ts.any (ctx.cancels kind actor) := by
  induction h with
  | done => rfl
  | stopped t h => simp [cancels, h]
  | denied t h hc => simp [cancels, hc]
  | next t ts value h hc _ ih => simp [cancels, h, hc, ih]

lemma warnings_subset_segment (t : Turn) :
    ctx.handlerWarnings kind actor t ++ ctx.ruleWarnings kind actor t ⊆ ctx.segment kind actor t := by
  intro e he
  rw [segment, List.mem_flatMap]
  obtain he | he := List.mem_append.1 he
  · exact ⟨.handlerWarning, by decide, he⟩
  · exact ⟨.warning, by decide, he⟩

/-- The warning of a handler comes at once exactly if the handler blocks. -/
lemma timed_handlerWarnings (t : Turn) :
    Timed (blocks kind actor t) actor.name (ctx.handlerWarnings kind actor t) := by
  intro e he
  simp only [handlerWarnings, deedsOf, List.mem_flatMap, Option.mem_toList] at he
  obtain ⟨h, ha, he⟩ := he
  have hblocks : blocks kind actor t = h.blocks := by simp [blocks, Option.mem_def.1 ha]
  rw [hblocks]
  unfold Handler.warningEffects at he
  split at he
  · split at he
    · contradiction
    · exact ⟨_, List.mem_singleton.1 he⟩
  · contradiction

/-- The warning of a rule comes at once exactly if its turn holds the text back. -/
lemma timed_ruleWarnings (t : Turn) :
    Timed (ctx.cancels kind actor t) actor.name (ctx.ruleWarnings kind actor t) := by
  intro e he
  cases hs : ctx.stops kind actor t with
  | true => simp [ruleWarnings, hs] at he
  | false =>
    simp only [ruleWarnings, hs, Bool.false_eq_true, if_false, deedsOf, List.mem_map] at he
    obtain ⟨warning, -, rfl⟩ := he
    rw [cancels, hs, Bool.false_or]
    exact ⟨_, rfl⟩

lemma cancels_of_blocks {t : Turn} (h : blocks kind actor t = true) :
    ctx.cancels kind actor t = true := by
  cases ha : t.rule.acting? kind actor t.found with
  | none => simp [blocks, ha] at h
  | some handler =>
    have hb : handler.blocks = true := by simpa [blocks, ha] using h
    simp [cancels, stops, stopsWith, ha, hb]

/-- In an evaluation, the turn that holds the text back has its warnings at once and any other turn
has them after the message of the player, with one exception: where a handler that does not block
sends a warning in the turn that holds the text back, this warning comes after the message. -/
theorem warnings_of_turns (ctx : Context) (kind : EventKind) (actor : Actor) (rules : RuleSet)
    (text : String) (state : State) :
    let done := ctx.evaluate rules kind actor text state
    let turns := ctx.turns kind actor (rules.inOrder kind) { text } state
    done.value.cancelled = turns.any (ctx.cancels kind actor) ∧
    ∀ t ∈ turns,
      let warnings := ctx.handlerWarnings kind actor t ++ ctx.ruleWarnings kind actor t
      warnings ⊆ deeds done.effects ∧
      (ctx.cancels kind actor t = false → Timed false actor.name warnings) ∧
      (ctx.cancels kind actor t = true →
        Timed true actor.name (ctx.ruleWarnings kind actor t) ∧
        Timed (blocks kind actor t) actor.name (ctx.handlerWarnings kind actor t) ∧
        (Timed true actor.name warnings ↔
          blocks kind actor t = true ∨ ctx.handlerWarnings kind actor t = [])) := by
  intro done turns
  refine ⟨(follows_evaluate ctx kind actor rules text state).cancelled_eq, fun t ht => ?_⟩
  have hhandler := @timed_handlerWarnings ctx kind actor t
  have hrule := @timed_ruleWarnings ctx kind actor t
  refine ⟨?_, fun hc => ?_, fun hc => ?_⟩
  · rw [deeds_evaluate]
    exact fun e he => List.mem_flatMap.2 ⟨t, ht, warnings_subset_segment t he⟩
  · have hb : blocks kind actor t = false := by
      rw [← Bool.not_eq_true]
      intro hb
      rw [cancels_of_blocks hb] at hc
      contradiction
    rw [hb] at hhandler
    rw [hc] at hrule
    exact timed_append.2 ⟨hhandler, hrule⟩
  · rw [hc] at hrule
    refine ⟨hrule, hhandler, ?_⟩
    rw [timed_append, hhandler.iff_eq]
    exact and_iff_left hrule

/-- The warning of a handler that does not block comes after the message of the player where there
is none: for a sign that is held back as the settings say, and for a rule that denies. -/
theorem warning_after_cancellation :
    let ctx : Context := { settings := {}, online := [] }
    let steve : Actor := ⟨"steve", "world", .survival, [], none⟩
    let warn : Handler := { name := "hw", warning := some "no" }
    let onSign := ctx.evaluate ⟨[(.sign, [{ pattern := "foo", handler := some warn }])]⟩ .sign steve
      "foo" {}
    let denied := ctx.evaluate
      ⟨[(.chat, [{ pattern := "foo", handler := some warn, cancels := true }])]⟩ .chat steve "foo" {}
    onSign.value = ⟨"foo", true⟩ ∧ deeds onSign.effects = [tellLater "steve" "no"] ∧
      denied.value = ⟨"foo", true⟩ ∧ deeds denied.effects = [tellLater "steve" "no"] := by
  decide +kernel

end Context

end Moderation.Engine
