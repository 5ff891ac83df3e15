import Mathlib.Tactic.Lemma
import Moderation.Engine.Evaluation

/-!
The trials of a pass: which rules are tried on which texts, and which part of a rule or of its handler
each effect comes from.
-/
namespace Moderation

namespace Engine

/-- The messages of a handler that are not sent twice in a row. -/
inductive MessageKind
  | warning
  | broadcast
deriving DecidableEq, Repr

/-- The message of a kind that was sent last. -/
def Scope.last (s : Scope) : MessageKind → Option String
  | .warning => s.warning
  | .broadcast => s.broadcast

/-- The part of a rule or of its handler that an effect comes from. A message of a handler is known
by its text as it is written. -/
inductive Origin
  | matching
  | opening
  | message (kind : MessageKind) (text : String)
  | alert
  | record
  | change
  | closing
deriving DecidableEq, Repr

/-- Effects and where they come from. -/
abbrev Trace := List (Origin × Effect)

/-- Effects that all come from one part. -/
def Origin.mark (o : Origin) (es : List Effect) : Trace := es.map (o, ·)

@[simp] theorem Origin.map_snd_mark (o : Origin) (es : List Effect) :
    (o.mark es).map Prod.snd = es := by
  simp [mark, Function.comp_def]

/-- A rule that is tried in the course of a pass, with the pass and the state before it. -/
structure Trial where
  rule : Rule
  before : Pass
  state : State

end Engine

open Engine

/-- The handler of a rule, unless it does nothing about the text. -/
def Rule.acting? (r : Rule) (kind : EventKind) (actor : Actor) (text : String) : Option Handler :=
  r.handler.filter fun h => !h.lets kind actor text

namespace Handler

/-- The message of a kind that a handler has. -/
def message? (h : Handler) : MessageKind → Option String
  | .warning => h.warning
  | .broadcast => h.broadcast

/-- What becomes of the message of a kind. -/
def messageEffects (h : Handler) (values : Placeholders) (actor : Actor) (s : Scope) :
    MessageKind → List Effect
  | .warning => h.warningEffects values actor s
  | .broadcast => h.broadcastEffects values s

/-- The message that was sent last is not sent again. -/
theorem messageEffects_of_last {h : Handler} {s : Scope} {k : MessageKind} {text : String}
    (hm : h.message? k = some text) (hs : s.last k = some text) (values : Placeholders)
    (actor : Actor) : h.messageEffects values actor s k = [] := by
  cases k with
  | warning =>
    change s.warning = _ at hs
    change h.warning = _ at hm
    simp [messageEffects, warningEffects, hm, hs]
  | broadcast =>
    change s.broadcast = _ at hs
    change h.broadcast = _ at hm
    simp [messageEffects, broadcastEffects, hm, hs]

/-- Any other message is sent once. -/
theorem messageEffects_of_not_last {h : Handler} {s : Scope} {k : MessageKind} {text : String}
    (hm : h.message? k = some text) (hs : s.last k ≠ some text) (values : Placeholders)
    (actor : Actor) : ∃ e, h.messageEffects values actor s k = [e] := by
  cases k with
  | warning =>
    change s.warning ≠ _ at hs
    change h.warning = _ at hm
    simp [messageEffects, warningEffects, hm, hs]
  | broadcast =>
    change s.broadcast ≠ _ at hs
    change h.broadcast = _ at hm
    simp [messageEffects, broadcastEffects, hm, hs]

/-- The message of a kind, and where it comes from. -/
def messageTrace (h : Handler) (values : Placeholders) (actor : Actor) (s : Scope)
    (k : MessageKind) : Trace :=
  match h.message? k with
  | some text => (Origin.message k text).mark (h.messageEffects values actor s k)
  | none => []

@[simp] theorem map_snd_messageTrace (h : Handler) (values : Placeholders) (actor : Actor)
    (s : Scope) (k : MessageKind) :
    (h.messageTrace values actor s k).map Prod.snd = h.messageEffects values actor s k := by
  unfold messageTrace
  cases hm : h.message? k with
  | some text => exact Origin.map_snd_mark ..
  | none => cases k <;> simp_all [message?, messageEffects, warningEffects, broadcastEffects]

end Handler

namespace Engine.Context
variable (ctx : Context) (kind : EventKind) (actor : Actor)

/-- What a handler that acts for a rule does, part by part. -/
def handlerTrace (pace : Pace) (h : Handler) (r : Rule) (p : Pass) (state : State) : Trace :=
  let values := (Placeholders.of r.id actor p.text).withHandler h.name
  h.messageTrace values actor p.scope .warning ++
  h.messageTrace values actor p.scope .broadcast ++
  Origin.alert.mark (h.alertEffects values (signPrefix kind actor) ctx.holders) ++
  Origin.record.mark (h.recordEffects values actor p.text) ++
  if h.blocks || (kind == .sign && ctx.settings.blockSigns) then []
  else Origin.change.mark (ctx.handlerText pace h r values p.text state).effects

/-- What a rule that matches does, part by part. -/
def fireTrace (chance : Chance) (r : Rule) (p : Pass) (state : State) : Trace :=
  let handled := ctx.handled chance.pace r kind actor p state
  Origin.opening.mark (ctx.openingEffects r kind actor p.text) ++
  (r.acting? kind actor p.text).toList.flatMap (ctx.handlerTrace kind actor chance.pace · r p state) ++
  if handled.value.cancelled then []
  else
    let changed :=
      ctx.replaced chance r actor (r.rewritten chance.rolls actor handled.value.text) handled.state
    Origin.change.mark changed.effects ++ Origin.closing.mark (r.closingEffects actor changed.value)

/-- What a trial does, part by part. -/
def trialTrace (t : Trial) : Trace :=
  if t.rule.skips kind actor then []
  else
    let chance := t.state.chance
    let matched := ctx.ruleMatches chance.pace t.rule t.before.text t.state.drawn
    Origin.matching.mark matched.effects ++
    if matched.value then ctx.fireTrace kind actor chance t.rule t.before matched.state else []

/-- The trials of a pass, up to the first that cancels. -/
def trials : List Rule → Pass → State → List Trial
  | [], _, _ => []
  | r :: rs, p, state =>
    let tried := ctx.tryRule kind actor r p state
    ⟨r, p, state⟩ :: if tried.value.cancelled then [] else trials rs tried.value tried.state

/-- What a pass does, part by part. -/
def passTrace (rs : List Rule) (p : Pass) (state : State) : Trace :=
  (ctx.trials kind actor rs p state).flatMap (ctx.trialTrace kind actor)

/-- Whether the rule of a trial matches the text. -/
def finds (t : Trial) : Bool :=
  (ctx.ruleMatches t.state.chance.pace t.rule t.before.text t.state.drawn).value

/-- The handler that acts in a trial, if its rule is tried, matches and has one. -/
def acting? (t : Trial) : Option Handler :=
  if !t.rule.skips kind actor && ctx.finds t then t.rule.acting? kind actor t.before.text
  else none

variable {ctx kind actor} {pace : Pace} {r : Rule} {p : Pass} {state : State} {h : Handler}

/-- Without a handler that acts, nothing happens before the rule itself goes on. -/
theorem handled_of_acting_none (ha : r.acting? kind actor p.text = none) :
    ctx.handled pace r kind actor p = pure p := by
  unfold handled
  cases hh : r.handler with
  | none => rfl
  | some h =>
    have hl : h.lets kind actor p.text = true := by simpa [Rule.acting?, hh] using ha
    exact applyHandler_of_lets hl pace r

/-- A handler that acts sends and records, and then it cancels or changes the text. -/
theorem handled_of_acting (ha : r.acting? kind actor p.text = some h) :
    ctx.handled pace r kind actor p state =
      let values := (Placeholders.of r.id actor p.text).withHandler h.name
      let changed := ctx.handlerText pace h r values p.text state
      if h.blocks || (kind == .sign && ctx.settings.blockSigns) then
        ⟨{ p with scope := p.scope.after h, cancelled := true }, state,
          ctx.handlerEffects h kind values actor p⟩
      else ⟨{ p with scope := p.scope.after h, text := changed.value }, changed.state,
        ctx.handlerEffects h kind values actor p ++ changed.effects⟩ := by
  obtain ⟨hh, hl⟩ := Option.filter_eq_some_iff.1 ha
  rw [Bool.not_eq_true', ← Bool.not_eq_true] at hl
  simp only [handled, hh, applyHandler, hl]
  by_cases hb : (h.blocks || (kind == .sign && ctx.settings.blockSigns)) = true
  · simp [hb]
  · simp [hb]

/-- The parts of what a handler does are all that it does. -/
theorem map_snd_handlerTrace (ha : r.acting? kind actor p.text = some h) :
    (ctx.handlerTrace kind actor pace h r p state).map Prod.snd =
      (ctx.handled pace r kind actor p state).effects := by
  rw [handled_of_acting ha]
  simp only [handlerTrace, handlerEffects, List.map_append, Handler.map_snd_messageTrace,
    Handler.messageEffects, Origin.map_snd_mark]
  split <;> simp

theorem map_snd_fireTrace (chance : Chance) (r : Rule) (p : Pass) (state : State) :
    (ctx.fireTrace kind actor chance r p state).map Prod.snd =
      (ctx.fire chance r kind actor p state).effects := by
  have hhandler : ((r.acting? kind actor p.text).toList.flatMap
      (ctx.handlerTrace kind actor chance.pace · r p state)).map Prod.snd =
        (ctx.handled chance.pace r kind actor p state).effects := by
    cases ha : r.acting? kind actor p.text with
    | none => simp [handled_of_acting_none ha]
    | some h => simp [map_snd_handlerTrace ha]
  simp only [fireTrace, fire, List.map_append, hhandler, Origin.map_snd_mark]
  by_cases hc : (ctx.handled chance.pace r kind actor p state).value.cancelled = true
  · simp [hc]
  · simp [hc]

theorem map_snd_trialTrace (t : Trial) :
    (ctx.trialTrace kind actor t).map Prod.snd =
      (ctx.tryRule kind actor t.rule t.before t.state).effects := by
  unfold trialTrace
  by_cases hs : t.rule.skips kind actor = true
  · simp [hs, tryRule_of_skips hs]
  · rw [Bool.not_eq_true] at hs
    cases hm : (ctx.ruleMatches t.state.chance.pace t.rule t.before.text t.state.drawn).value with
    | false => simp [hs, hm, tryRule_of_no_match hs hm]
    | true => simp [hs, hm, tryRule_of_match hs hm, map_snd_fireTrace]

/-- The trials of a pass do all that the pass does. -/
theorem map_snd_passTrace (rs : List Rule) (p : Pass) (state : State) :
    (ctx.passTrace kind actor rs p state).map Prod.snd =
      (ctx.tryRules kind actor rs p state).effects := by
  induction rs generalizing p state with
  | nil => rfl
  | cons r rs ih =>
    unfold passTrace at ih ⊢
    simp only [trials, tryRules, List.flatMap_cons, List.map_append, map_snd_trialTrace]
    by_cases hc : (ctx.tryRule kind actor r p state).value.cancelled = true
    · simp [hc]
    · simp [hc, ih]

/-- Only a handler that acts changes which messages were sent last. -/
theorem scope_handled (pace : Pace) (r : Rule) (p : Pass) (state : State) :
    (ctx.handled pace r kind actor p state).value.scope =
      (r.acting? kind actor p.text).elim p.scope p.scope.after := by
  cases ha : r.acting? kind actor p.text with
  | none => rw [handled_of_acting_none ha]; rfl
  | some h =>
    rw [handled_of_acting ha]
    split <;> rfl

theorem scope_fire (chance : Chance) (r : Rule) (p : Pass) (state : State) :
    (ctx.fire chance r kind actor p state).value.scope =
      (r.acting? kind actor p.text).elim p.scope p.scope.after := by
  rw [← @scope_handled ctx kind actor chance.pace r p state]
  by_cases hc : (ctx.handled chance.pace r kind actor p state).value.cancelled = true
  · simp [fire, hc]
  · simp [fire, hc]

theorem scope_tryRule (t : Trial) :
    (ctx.tryRule kind actor t.rule t.before t.state).value.scope =
      (ctx.acting? kind actor t).elim t.before.scope t.before.scope.after := by
  unfold acting? finds
  by_cases hs : t.rule.skips kind actor = true
  · simp [hs, tryRule_of_skips hs]
  · rw [Bool.not_eq_true] at hs
    cases hm : (ctx.ruleMatches t.state.chance.pace t.rule t.before.text t.state.drawn).value with
    | false => simp [hs, tryRule_of_no_match hs hm]
    | true => simp [hs, tryRule_of_match hs hm, scope_fire]

end Engine.Context

end Moderation
