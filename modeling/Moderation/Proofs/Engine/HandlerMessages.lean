import Mathlib.Data.List.Destutter
import Moderation.Proofs.Engine.Cancellation
import Moderation.Proofs.Engine.Trial

/-!
How often the messages of handlers are sent in one evaluation. Only the message that was sent last is
remembered, so that a message is not sent twice in a row, but again after another one.
-/
namespace Moderation.Engine

section Unrepeated
variable {α : Type} [DecidableEq α]

/-- A list without the members that equal the one kept before them, the first of them coming after
`last`. -/
def unrepeated : Option α → List α → List α
  | _, [] => []
  | last, a :: l => if last = some a then unrepeated last l else a :: unrepeated (some a) l

lemma cons_unrepeated_some (a : α) (l : List α) :
    a :: unrepeated (some a) l = l.destutter' (· ≠ ·) a := by
  induction l generalizing a with
  | nil => rfl
  | cons b l ih =>
    by_cases hab : a = b
    · subst hab
      simp [unrepeated, ih]
    · simp [unrepeated, hab, ih]

theorem unrepeated_none (l : List α) : unrepeated none l = l.destutter (· ≠ ·) := by
  cases l with
  | nil => rfl
  | cons a l =>
    rw [List.destutter_cons', ← cons_unrepeated_some]
    simp [unrepeated]

lemma unrepeated_append (last message : Option α) (l : List α) :
    unrepeated last (message.toList ++ l) =
      unrepeated last message.toList ++ unrepeated (message.or last) l := by
  cases message with
  | none => rfl
  | some a =>
    by_cases ha : last = some a
    · simp [unrepeated, ha]
    · simp [unrepeated, ha]

/-- Whatever was kept before, a different member is kept at least once. -/
lemma mem_unrepeated {a : α} {last : Option α} (h : last ≠ some a) (l : List α) :
    a ∈ unrepeated last l ↔ a ∈ l := by
  induction l generalizing last with
  | nil => simp [unrepeated]
  | cons b l ih =>
    by_cases hb : last = some b
    · have hab : a ≠ b := by
        rintro rfl
        exact h hb
      simp [unrepeated, hb, ← ih h, hab]
    · by_cases hab : a = b
      · simp [unrepeated, hb, hab]
      · have hba : some b ≠ some a := by simpa using Ne.symm hab
        simp [unrepeated, hb, hab, ih hba]

/-- What was kept last is not kept again exactly if it never comes after another member. -/
lemma count_unrepeated_self {a : α} (l : List α) :
    (unrepeated (some a) l).count a = 0 ↔ ∀ b, b ≠ a → ¬ [b, a].Sublist l := by
  induction l with
  | nil => simp [unrepeated]
  | cons c l ih =>
    by_cases hac : a = c
    · subst hac
      rw [unrepeated, if_pos rfl, ih]
      refine forall₂_congr fun b hb => ?_
      rw [List.sublist_cons_iff]
      simp [hb]
    · have hca : some c ≠ some a := by simpa using Ne.symm hac
      rw [unrepeated, if_neg (Ne.symm hca), List.count_cons_of_ne (Ne.symm hac),
        List.count_eq_zero, mem_unrepeated hca]
      constructor
      · intro hmem b hb hsub
        obtain hsub | ⟨l', heq, hsub⟩ := List.sublist_cons_iff.1 hsub
        · exact hmem (hsub.subset (by simp))
        · obtain ⟨-, rfl⟩ := List.cons.inj heq
          exact hmem (hsub.subset (by simp))
      · intro hsub hmem
        exact hsub c (Ne.symm hac) (List.cons_sublist_cons.2 (List.singleton_sublist.2 hmem))

/-- A member is kept at most once exactly if no other member comes between two of its places. -/
theorem count_unrepeated_le_one_iff {a : α} {last : Option α} (h : last ≠ some a) (l : List α) :
    (unrepeated last l).count a ≤ 1 ↔ ∀ b, b ≠ a → ¬ [a, b, a].Sublist l := by
  induction l generalizing last with
  | nil => simp [unrepeated]
  | cons c l ih =>
    by_cases hac : a = c
    · subst hac
      rw [unrepeated, if_neg h, List.count_cons_self]
      simp only [List.cons_sublist_cons, ← count_unrepeated_self]
      omega
    · have hskip (b : α) : [a, b, a].Sublist (c :: l) ↔ [a, b, a].Sublist l := by
        rw [List.sublist_cons_iff]
        simp [hac]
      simp only [hskip]
      by_cases hc : last = some c
      · rw [unrepeated, if_pos hc, ih h]
      · have hca : some c ≠ some a := by simpa using Ne.symm hac
        rw [unrepeated, if_neg hc, List.count_cons_of_ne (Ne.symm hac), ih hca]

end Unrepeated

/-- The text of a message of a kind. -/
def Origin.message? (k : MessageKind) : Origin → Option String
  | .message kind text => if kind = k then some text else none
  | _ => none

/-- The texts of the messages of a kind that are sent. -/
def Trace.messages (k : MessageKind) (trace : Trace) : List String :=
  trace.filterMap (·.1.message? k)

/-- The message of a kind that the handler at work in a trial has. -/
def Context.raised? (ctx : Context) (kind : EventKind) (actor : Actor) (k : MessageKind)
    (t : Trial) : Option String :=
  (ctx.acting? kind actor t).bind (·.message? k)

/-- The messages of a kind that the handlers at work in some trials have. -/
def Context.raised (ctx : Context) (kind : EventKind) (actor : Actor) (k : MessageKind)
    (ts : List Trial) : List String :=
  ts.filterMap (ctx.raised? kind actor k)

theorem Scope.last_after (s : Scope) (h : Handler) (k : MessageKind) :
    (s.after h).last k = (h.message? k).or (s.last k) := by
  cases k <;> rfl

namespace Trace
variable {k : MessageKind}

@[simp] theorem messages_nil : messages k [] = [] := rfl

@[simp] theorem messages_append (s t : Trace) :
    messages k (s ++ t) = messages k s ++ messages k t := List.filterMap_append ..

/-- Other parts of a rule send no message of a handler. -/
theorem messages_mark_of_none {o : Origin} (h : o.message? k = none) (es : List Effect) :
    messages k (o.mark es) = [] := by
  simp [messages, Origin.mark, h]

theorem messages_mark_message (text : String) (es : List Effect) :
    messages k ((Origin.message k text).mark es) = es.map fun _ => text := by
  simp [messages, Origin.mark, Origin.message?, List.filterMap_map]

end Trace

/-- A message is sent unless it was the last one of its kind. -/
theorem messages_messageTrace (h : Handler) (values : Placeholders) (actor : Actor) (s : Scope)
    (k : MessageKind) :
    Trace.messages k (h.messageTrace values actor s k) =
      unrepeated (s.last k) (h.message? k).toList := by
  unfold Handler.messageTrace
  cases hm : h.message? k with
  | none => rfl
  | some text =>
    rw [Trace.messages_mark_message]
    by_cases hs : s.last k = some text
    · simp [unrepeated, hs, Handler.messageEffects_of_last hm hs]
    · obtain ⟨e, he⟩ := Handler.messageEffects_of_not_last hm hs values actor
      simp [unrepeated, hs, he]

/-- A message of another kind is another matter. -/
theorem messages_messageTrace_of_ne {k k' : MessageKind} (hk : k' ≠ k) (h : Handler)
    (values : Placeholders) (actor : Actor) (s : Scope) :
    Trace.messages k (h.messageTrace values actor s k') = [] := by
  unfold Handler.messageTrace
  cases h.message? k' with
  | none => rfl
  | some text => exact Trace.messages_mark_of_none (by simp [Origin.message?, hk]) _

namespace Context
open Trace
variable {ctx : Context} {kind : EventKind} {actor : Actor} {k : MessageKind}

theorem messages_handlerTrace (pace : Pace) (h : Handler) (r : Rule) (p : Pass) (state : State) :
    messages k (ctx.handlerTrace kind actor pace h r p state) =
      unrepeated (p.scope.last k) (h.message? k).toList := by
  have hrest : messages k (if h.blocks || (kind == .sign && ctx.settings.blockSigns) then []
      else Origin.change.mark (ctx.handlerText pace h r
        ((Placeholders.of r.id actor p.text).withHandler h.name) p.text state).effects) = [] := by
    split
    · rfl
    · exact messages_mark_of_none rfl _
  simp only [handlerTrace, messages_append, hrest,
    messages_mark_of_none (o := .alert) rfl, messages_mark_of_none (o := .record) rfl,
    List.append_nil]
  cases k with
  | warning =>
    rw [messages_messageTrace, messages_messageTrace_of_ne (by decide), List.append_nil]
  | broadcast =>
    rw [messages_messageTrace, messages_messageTrace_of_ne (by decide), List.nil_append]

theorem messages_fireTrace (chance : Chance) (r : Rule) (p : Pass) (state : State) :
    messages k (ctx.fireTrace kind actor chance r p state) =
      unrepeated (p.scope.last k)
        ((r.acting? kind actor p.text).bind (·.message? k)).toList := by
  have hopening : messages k (Origin.opening.mark (ctx.openingEffects r kind actor p.text)) =
      [] := messages_mark_of_none rfl _
  have hhandler : messages k ((r.acting? kind actor p.text).toList.flatMap
      (ctx.handlerTrace kind actor chance.pace · r p state)) =
        unrepeated (p.scope.last k)
          ((r.acting? kind actor p.text).bind (·.message? k)).toList := by
    cases r.acting? kind actor p.text with
    | none => rfl
    | some h => simp [messages_handlerTrace]
  simp only [fireTrace, messages_append, hopening, hhandler, List.nil_append]
  split
  · rw [messages_nil, List.append_nil]
  · rw [messages_append, messages_mark_of_none (o := .change) rfl,
      messages_mark_of_none (o := .closing) rfl, List.append_nil, List.append_nil]

/-- A trial sends the message of its handler, unless it was the last one that was sent. -/
theorem messages_trialTrace (t : Trial) :
    messages k (ctx.trialTrace kind actor t) =
      unrepeated (t.before.scope.last k) (ctx.raised? kind actor k t).toList := by
  unfold trialTrace raised? acting? finds
  by_cases hs : t.rule.skips kind actor = true
  · simp [hs, unrepeated]
  · have hmatching : messages k (Origin.matching.mark
        (ctx.ruleMatches t.state.chance.pace t.rule t.before.text t.state.drawn).effects) = [] :=
      messages_mark_of_none rfl _
    by_cases hm : (ctx.ruleMatches t.state.chance.pace t.rule t.before.text t.state.drawn).value =
        true
    · simp [hs, hm, hmatching, messages_fireTrace]
    · simp [hs, hm, hmatching, unrepeated]

/-- After a trial the scope holds the message of its handler, if it has one. -/
theorem last_tryRule (t : Trial) :
    (ctx.tryRule kind actor t.rule t.before t.state).value.scope.last k =
      (ctx.raised? kind actor k t).or (t.before.scope.last k) := by
  rw [scope_tryRule, raised?]
  cases ctx.acting? kind actor t with
  | none => rfl
  | some h => exact Scope.last_after ..

/-- In a pass a message is sent each time that a handler has it, unless it was the last one that was
sent. -/
theorem messages_passTrace (rs : List Rule) (p : Pass) (state : State) :
    messages k (ctx.passTrace kind actor rs p state) =
      unrepeated (p.scope.last k) (ctx.raised kind actor k (ctx.trials kind actor rs p state)) := by
  induction rs generalizing p state with
  | nil => rfl
  | cons r rs ih =>
    -- the scope carries the last message from one trial to the next
    have hlast := @last_tryRule ctx kind actor k ⟨r, p, state⟩
    have hraised (ts : List Trial) : ctx.raised kind actor k (⟨r, p, state⟩ :: ts) =
        (ctx.raised? kind actor k ⟨r, p, state⟩).toList ++ ctx.raised kind actor k ts := by
      unfold raised
      rw [List.filterMap_cons]
      cases ctx.raised? kind actor k ⟨r, p, state⟩ <;> rfl
    unfold passTrace at ih ⊢
    rw [trials, List.flatMap_cons, messages_append, messages_trialTrace, hraised, unrepeated_append,
      ← hlast]
    congr 1
    by_cases hc : (ctx.tryRule kind actor r p state).value.cancelled = true
    · simp only [hc, if_true]
      rfl
    · rw [if_neg hc, ih]

/-- An evaluation sends the messages of its handlers without immediate repetitions, whatever happened
before it. So a message is sent at most once exactly if no other message comes between two handlers
that have it. -/
theorem evaluate_messages (ctx : Context) (rules : RuleSet) (kind : EventKind) (actor : Actor)
    (text : String) (state : State) (k : MessageKind) :
    let evaluated := (ctx.evaluate rules kind actor text).seen state
    let trace := ctx.passTrace kind actor (rules.inOrder kind) { text } state
    let raised := ctx.raised kind actor k (ctx.trials kind actor (rules.inOrder kind) { text } state)
    evaluated.2 = .count (.evaluation kind.label) :: (visible (trace.map Prod.snd) ++
      if evaluated.1.cancelled then [.count .cancellation] else []) ∧
    messages k trace = raised.destutter (· ≠ ·) ∧
    ∀ message, (messages k trace).count message ≤ 1 ↔
      ∀ other, other ≠ message → ¬ [message, other, message].Sublist raised := by
  intro evaluated trace raised
  have hsent : messages k trace = unrepeated none raised := by
    simp only [trace, raised, messages_passTrace]
    cases k <;> rfl
  refine ⟨?_, by rw [hsent, unrepeated_none], fun message => ?_⟩
  · simp only [evaluated, trace, seen_evaluate, passSeen, map_snd_passTrace]
  · rw [hsent]
    exact count_unrepeated_le_one_iff (Option.some_ne_none message).symm raised

/-- Where a second handler comes between, a warning and a broadcast are sent again. -/
theorem evaluate_messages_again :
    let ctx : Context := { settings := {}, online := [] }
    let steve : Actor := ⟨"steve", "world", .survival, [], none⟩
    let a : Handler := { name := "a", warning := some "wa", broadcast := some "ba" }
    let b : Handler := { name := "b", warning := some "wb", broadcast := some "bb" }
    let rules : RuleSet := ⟨[(.chat, [{ pattern := "foo", handler := some a },
      { pattern := "bar", handler := some b }, { pattern := "baz", handler := some a }])]⟩
    let effects := (ctx.evaluate rules .chat steve "foo bar baz" {}).effects
    effects.count (tellLater "steve" "wa") = 2 ∧ effects.count (.act (.broadcast "ba")) = 2 := by
  decide +kernel

end Context

end Moderation.Engine
