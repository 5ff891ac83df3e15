import Mathlib.Data.List.Basic
import Mathlib.Tactic.Lemma
import Moderation.Proofs.Engine.Cancellation
import Moderation.Proofs.Engine.Steps
import Moderation.Proofs.Engine.Trial

/-!
The order of what an evaluation does. Each rule that matches has its turn, and in its turn it does
what it does in a fixed order. What it does up to the work of its handler is about the text that it
finds, and the rest is about the text that it leaves. A handler that cancels ends the evaluation
before the rest.
-/
namespace Moderation

/-- Whether an effect is a deed: something that is asked of the server, now or later, or an entry of
the audit trail. Counters and the log are no deeds, and neither is the report of a pattern that
fails. -/
def Effect.isDeed : Effect → Bool
  | .act _ => true
  | .later _ _ => true
  | .audit entry => !entry.kind.isFault
  | .count _ => false
  | .log _ => false
  | .crash => false

namespace Engine
open Text

/-! ### Deeds -/

/-- The deeds among effects. -/
def deeds (es : List Effect) : List Effect := es.filter Effect.isDeed

@[simp] theorem deeds_nil : deeds [] = [] := rfl

@[simp] theorem deeds_append (es fs : List Effect) : deeds (es ++ fs) = deeds es ++ deeds fs :=
  List.filter_append ..

/-- Every deed can be seen. -/
@[simp] theorem deeds_visible (es : List Effect) : deeds (visible es) = deeds es := by
  rw [deeds, visible, List.filter_filter, deeds]
  congr
  funext e
  cases e <;> simp [Effect.isDeed, Effect.isVisible]

lemma deeds_eq_self {es : List Effect} (h : ∀ e ∈ es, e.isDeed = true) : deeds es = es :=
  List.filter_eq_self.2 h

namespace Work
variable {α β : Type}

/-- Work without deeds. -/
structure Idle (w : Work α) : Prop where
  deeds_eq : ∀ state, deeds (w state).effects = []

lemma Idle.pure (a : α) : Idle (Pure.pure a) := ⟨fun _ => rfl⟩

lemma Idle.bind {w : Work α} {f : α → Work β} (hw : w.Idle) (hf : ∀ a, (f a).Idle) :
    (w >>= f).Idle := by
  refine ⟨fun state => ?_⟩
  rw [bind_apply, deeds_append, hw.deeds_eq, (hf _).deeds_eq, List.nil_append]

end Work

/-- Patterns are used without deeds, also where they fail. -/
theorem Budget.inherited_idle (b : Budget) : Inherited b Work.Idle where
  pure := .pure
  bind := .bind
  say _ _ _ := ⟨fun _ => rfl⟩
  compile source := ⟨fun state => by rw [effects_compile, deeds_nil]⟩
  report pattern text failure := by
    refine ⟨fun state => ?_⟩
    obtain fault | _ := failure
    · cases fault <;> rfl
    · rfl

/-! ### Turns -/

/-- What a rule that matches does, from first to last. -/
inductive Deed
  | violation
  | notice
  | handlerWarning
  | broadcast
  | alert
  | handlerCommand
  | handlerFile
  | handlerFine
  | command
  | warning
  | fine
  | kick
deriving DecidableEq, Repr

namespace Deed

/-- The order of deeds. -/
def inOrder : List Deed :=
  [.violation, .notice, .handlerWarning, .broadcast, .alert, .handlerCommand, .handlerFile,
    .handlerFine, .command, .warning, .fine, .kick]

/-- Whether a deed comes before a rule changes the text. -/
def isEarly : Deed → Bool
  | .command | .warning | .fine | .kick => false
  | _ => true

end Deed

/-- The turn of a rule that matches: the text that it finds, the messages of handlers that were sent
last before it, and the text after its change. -/
structure Turn where
  rule : Rule
  found : String
  scope : Scope
  left : String
deriving DecidableEq, Repr

namespace Context
variable (ctx : Context) (kind : EventKind) (actor : Actor)

/-- Whether a handler ends an evaluation: it blocks, or the settings have it so for signs. -/
def stopsWith (h : Handler) : Bool := h.blocks || (kind == .sign && ctx.settings.blockSigns)

/-- Whether the handler that acts in a turn ends the evaluation. -/
def stops (t : Turn) : Bool := (t.rule.acting? kind actor t.found).any (ctx.stopsWith kind)

/-- The text that the handler of a rule leaves to the rule. -/
def leftByHandler (pace : Pace) (r : Rule) (text : String) : Work String :=
  match r.acting? kind actor text with
  | some h => ctx.handlerText pace h r ((Placeholders.of r.id actor text).withHandler h.name) text
  | none => pure text

/-- The text after the rewrite and the replacement of a rule. -/
def changed (chance : Chance) (r : Rule) (text : String) : Work String := do
  let text ← ctx.leftByHandler kind actor chance.pace r text
  ctx.replaced chance r actor (r.rewritten chance.rolls actor text)

/-- What is done of one kind in a turn, where `text` is the text that it is done about. -/
def deedsOf (t : Turn) (d : Deed) (text : String) : List Effect :=
  let values := Placeholders.of t.rule.id actor text
  let byHandler (does : Handler → Placeholders → List Effect) : List Effect :=
    (t.rule.acting? kind actor t.found).toList.flatMap fun h => does h (values.withHandler h.name)
  match d with
  | .violation =>
    if t.rule.logs then
      [.audit ⟨.ruleViolation, some actor.name,
        signPrefix kind actor ++ t.rule.short ++ " caught message: " ++ text⟩]
    else []
  | .notice => ctx.noticeEffects t.rule actor text
  | .handlerWarning => byHandler fun h values => h.warningEffects values actor t.scope
  | .broadcast => byHandler fun h values => h.broadcastEffects values t.scope
  | .alert => byHandler fun h values => h.alertEffects values (signPrefix kind actor) ctx.holders
  | .handlerCommand =>
    byHandler fun h values =>
      h.commands.flatMap fun command => customCommand actor text (values.fill command)
  | .handlerFile =>
    byHandler fun h values => h.file.toList.map fun target =>
      .audit ⟨.handlerFile target, some actor.name,
        values.fill "[Handler=\x7bhandler\x7d, Rule ID=\x7bruleID\x7d] " ++ text⟩
  | .handlerFine =>
    byHandler fun h _ => h.fine.toList.map fun amount => .act (.withdraw actor.name amount)
  | .command =>
    t.rule.commands.flatMap fun command => customCommand actor text (values.fill command)
  | .warning =>
    t.rule.warning.toList.map fun warning =>
      tellWhen t.rule.cancels actor.name (colorize (values.fill warning))
  | .fine => t.rule.fine.toList.map fun amount => .act (.withdraw actor.name amount)
  | .kick =>
    t.rule.kick.toList.map fun message =>
      commandLater ("kick " ++ actor.name ++ " " ++ colorize message)

/-- All that is done in a turn. What is early is about the text that the rule finds, and the rest
about the text that it leaves; after a handler that ends the evaluation there is no rest. -/
def segment (t : Turn) : List Effect :=
  Deed.inOrder.flatMap fun d =>
    if d.isEarly then ctx.deedsOf kind actor t d t.found
    else if ctx.stops kind actor t then [] else ctx.deedsOf kind actor t d t.left

/-- The turn of a rule that is tried, if it matches. -/
def turn? (t : Trial) : Option Turn :=
  if t.rule.skips kind actor then none
  else
    let chance := t.state.chance
    let matched := ctx.ruleMatches chance.pace t.rule t.before.text t.state.drawn
    if matched.value then
      some ⟨t.rule, t.before.text, t.before.scope,
        (ctx.changed kind actor chance t.rule t.before.text matched.state).value⟩
    else none

/-- The turns of a pass: those of the rules that match, as far as the pass comes. -/
def turns (rs : List Rule) (p : Pass) (state : State) : List Turn :=
  (ctx.trials kind actor rs p state).filterMap (ctx.turn? kind actor)

/-- What the turns hand on to each other and come to in the end. Each finds the text that the one
before it left. A handler that ends the evaluation ends it with the text that its rule found, and a
rule that cancels ends it with the text that it leaves. -/
inductive Follows : String → Scope → List Turn → Evaluation → Prop
  | done (text : String) (scope : Scope) : Follows text scope [] ⟨text, false⟩
  | stopped (t : Turn) (h : ctx.stops kind actor t = true) :
    Follows t.found t.scope [t] ⟨t.found, true⟩
  | denied (t : Turn) (h : ctx.stops kind actor t = false) (hc : t.rule.cancels = true) :
    Follows t.found t.scope [t] ⟨t.left, true⟩
  | next (t : Turn) (ts : List Turn) (value : Evaluation) (h : ctx.stops kind actor t = false)
    (hc : t.rule.cancels = false)
    (hts : Follows t.left ((t.rule.acting? kind actor t.found).elim t.scope t.scope.after) ts value) :
    Follows t.found t.scope (t :: ts) value

/-! ### One turn -/

variable {ctx kind actor} {pace : Pace} {chance : Chance} {r : Rule} {p : Pass} {state : State}

lemma deeds_openingEffects (t : Turn) :
    deeds (ctx.openingEffects t.rule kind actor t.found) =
      ctx.deedsOf kind actor t .violation t.found ++ ctx.deedsOf kind actor t .notice t.found := by
  have hnotice : deeds (ctx.noticeEffects t.rule actor t.found) =
      ctx.noticeEffects t.rule actor t.found := by
    apply deeds_eq_self
    unfold noticeEffects
    split <;> simp [tellLater, Effect.isDeed]
  have hviolation : deeds (ctx.violationEffects t.rule kind actor t.found) =
      ctx.deedsOf kind actor t .violation t.found := by
    cases hl : t.rule.logs
    · simp [violationEffects, deedsOf, hl]
    · cases hv : ctx.settings.verbose <;>
        simp [violationEffects, deedsOf, hl, hv, deeds, Effect.isDeed, AuditKind.isFault]
  simp only [openingEffects, deeds_append, hviolation, hnotice]
  rfl

lemma isDeed_tellWhen (now : Bool) (player message : String) :
    (tellWhen now player message).isDeed = true := by
  cases now <;> rfl

lemma isDeed_of_mem_customCommand {text command : String} {e : Effect}
    (h : e ∈ customCommand actor text command) : e.isDeed = true := by
  unfold customCommand at h
  split at h
  · simp at h
  · obtain rfl := List.mem_singleton.1 h
    rfl

lemma deeds_handlerEffects {t : Turn} {h : Handler} (ha : t.rule.acting? kind actor t.found = some h)
    (cancelled : Bool) :
    deeds (ctx.handlerEffects h kind ((Placeholders.of t.rule.id actor t.found).withHandler h.name)
        actor ⟨t.found, t.scope, cancelled⟩) =
      ctx.deedsOf kind actor t .handlerWarning t.found ++
      ctx.deedsOf kind actor t .broadcast t.found ++ ctx.deedsOf kind actor t .alert t.found ++
      (ctx.deedsOf kind actor t .handlerCommand t.found ++
        ctx.deedsOf kind actor t .handlerFile t.found ++
        ctx.deedsOf kind actor t .handlerFine t.found) := by
  generalize hvalues : (Placeholders.of t.rule.id actor t.found).withHandler h.name = values
  have hwarning : deeds (h.warningEffects values actor t.scope) =
      h.warningEffects values actor t.scope := by
    apply deeds_eq_self
    unfold Handler.warningEffects
    split
    · split <;> simp [isDeed_tellWhen]
    · simp
  have hbroadcast : deeds (h.broadcastEffects values t.scope) = h.broadcastEffects values t.scope := by
    apply deeds_eq_self
    unfold Handler.broadcastEffects
    split
    · split <;> simp [Effect.isDeed]
    · simp
  have halert : deeds (h.alertEffects values (signPrefix kind actor) ctx.holders) =
      h.alertEffects values (signPrefix kind actor) ctx.holders := by
    apply deeds_eq_self
    unfold Handler.alertEffects
    split <;> simp [Effect.isDeed]
  have hlog : deeds (h.console.toList.map fun message =>
      .log ⟨.info, stripColors (colorize (values.fill message)), [("handler", h.name)]⟩) = [] := by
    cases h.console <;> rfl
  have hcommands : deeds (h.commands.flatMap fun command =>
      customCommand actor t.found (values.fill command)) =
        h.commands.flatMap fun command => customCommand actor t.found (values.fill command) := by
    apply deeds_eq_self
    intro e he
    obtain ⟨command, -, hc⟩ := List.mem_flatMap.1 he
    exact isDeed_of_mem_customCommand hc
  have hfile (target : String) (message : String) :
      (Effect.audit ⟨.handlerFile target, some actor.name, message⟩).isDeed = true := rfl
  have hfine (amount : Binary64) : (Effect.act (.withdraw actor.name amount)).isDeed = true := rfl
  simp only [handlerEffects, Handler.recordEffects, deeds_append, hwarning, hbroadcast, halert, hlog,
    hcommands, List.nil_append]
  simp only [deedsOf, ha, hvalues, Option.toList_some, List.flatMap_cons, List.flatMap_nil,
    List.append_nil]
  congr 3
  · cases h.file <;> simp [deeds, hfile]
  · cases h.fine <;> simp [deeds, hfine]

lemma deeds_closingEffects (t : Turn) (text : String) :
    deeds (t.rule.closingEffects actor text) =
      ctx.deedsOf kind actor t .command text ++ ctx.deedsOf kind actor t .warning text ++
        ctx.deedsOf kind actor t .fine text ++ ctx.deedsOf kind actor t .kick text := by
  apply deeds_eq_self
  intro e he
  simp only [Rule.closingEffects, List.mem_append, List.mem_flatMap, List.mem_map] at he
  obtain ((⟨command, -, hc⟩ | ⟨warning, -, rfl⟩) | ⟨amount, -, rfl⟩) | ⟨message, -, rfl⟩ := he
  · exact isDeed_of_mem_customCommand hc
  · exact isDeed_tellWhen ..
  · rfl
  · rfl

lemma idle_handlerText (h : Handler) (r : Rule) (values : Placeholders) (text : String) :
    (ctx.handlerText pace h r values text).Idle :=
  ctx.budget.inherited_idle.handlerText pace h r values text

lemma idle_replaced (r : Rule) (text : String) : (ctx.replaced chance r actor text).Idle :=
  ctx.budget.inherited_idle.replaced chance r actor text

lemma deeds_handled (t : Turn) (state : State) :
    deeds (ctx.handled pace t.rule kind actor { text := t.found, scope := t.scope } state).effects =
      [Deed.handlerWarning, .broadcast, .alert, .handlerCommand, .handlerFile,
        .handlerFine].flatMap fun d => ctx.deedsOf kind actor t d t.found := by
  cases ha : t.rule.acting? kind actor t.found with
  | none =>
    rw [handled_of_acting_none (p := { text := t.found, scope := t.scope }) ha]
    simp [deedsOf, ha]
  | some h =>
    rw [handled_of_acting (p := { text := t.found, scope := t.scope }) ha]
    have hidle := @idle_handlerText ctx pace h t.rule
      ((Placeholders.of t.rule.id actor t.found).withHandler h.name) t.found
    split <;> simp [deeds_handlerEffects ha, hidle.deeds_eq]

lemma handled_eq_turn (t : Turn) (state : State) :
    let done := ctx.handled pace t.rule kind actor { text := t.found, scope := t.scope } state
    let after := (t.rule.acting? kind actor t.found).elim t.scope t.scope.after
    let left := ctx.leftByHandler kind actor pace t.rule t.found state
    if ctx.stops kind actor t then done.value = ⟨t.found, after, true⟩
    else done.value = ⟨left.value, after, false⟩ ∧ done.state = left.state := by
  cases ha : t.rule.acting? kind actor t.found with
  | none =>
    rw [handled_of_acting_none (p := { text := t.found, scope := t.scope }) ha]
    simp [stops, leftByHandler, ha]
  | some h =>
    rw [handled_of_acting (p := { text := t.found, scope := t.scope }) ha]
    cases hs : (h.blocks || (kind == .sign && ctx.settings.blockSigns)) with
    | true => simp [stops, stopsWith, ha, hs]
    | false => simp [stops, stopsWith, leftByHandler, ha, hs]

/-- What a rule that fires comes to in its turn, and all that it does. -/
lemma fire_eq_turn (t : Turn) (state : State)
    (hleft : t.left = (ctx.changed kind actor chance t.rule t.found state).value) :
    let done := ctx.fire chance t.rule kind actor { text := t.found, scope := t.scope } state
    done.value =
      ⟨if ctx.stops kind actor t then t.found else t.left,
        (t.rule.acting? kind actor t.found).elim t.scope t.scope.after,
        ctx.stops kind actor t || t.rule.cancels⟩ ∧
    deeds done.effects = ctx.segment kind actor t := by
  have hvalue := @handled_eq_turn ctx kind actor chance.pace t state
  have hopening := @deeds_openingEffects ctx kind actor t
  have hhandler := @deeds_handled ctx kind actor chance.pace t state
  cases hs : ctx.stops kind actor t with
  | true =>
    rw [if_pos hs] at hvalue
    simp [fire, hvalue, hhandler, hopening, segment, Deed.inOrder, Deed.isEarly, hs]
  | false =>
    rw [if_neg (by simp [hs])] at hvalue
    obtain ⟨hvalue, hcache⟩ := hvalue
    have hclosing := @deeds_closingEffects ctx kind actor t t.left
    simp only [changed, Work.bind_apply] at hleft
    simp [fire, hvalue, hcache, hhandler, hopening, (idle_replaced _ _).deeds_eq, ← hleft, hclosing,
      segment, Deed.inOrder, Deed.isEarly, hs]

/-! ### Turn after turn -/

/-- What a trial comes to: nothing, or the turn of its rule. -/
lemma tryRule_eq_turn {t : Trial} (hp : t.before.cancelled = false) :
    let done := ctx.tryRule kind actor t.rule t.before t.state
    (ctx.turn? kind actor t = none ∧ done.value = t.before ∧ deeds done.effects = []) ∨
    ∃ u, ctx.turn? kind actor t = some u ∧ u.rule = t.rule ∧ u.found = t.before.text ∧
      u.scope = t.before.scope ∧
      done.value = ⟨if ctx.stops kind actor u then u.found else u.left,
        (u.rule.acting? kind actor u.found).elim u.scope u.scope.after,
        ctx.stops kind actor u || u.rule.cancels⟩ ∧
      deeds done.effects = ctx.segment kind actor u := by
  obtain ⟨r, ⟨text, scope, cancelled⟩, state⟩ := t
  obtain rfl : cancelled = false := hp
  have hidle := (ctx.budget.inherited_idle.ruleMatches state.chance.pace r text).deeds_eq state.drawn
  cases hs : r.skips kind actor with
  | true =>
    left
    simp [turn?, hs, tryRule_of_skips hs]
  | false =>
    cases hm : (ctx.ruleMatches state.chance.pace r text state.drawn).value with
    | false =>
      left
      simp [turn?, hs, hm, tryRule_of_no_match (p := { text, scope }) hs hm, hidle]
    | true =>
      right
      refine ⟨_, by simp [turn?, hs, hm]; rfl, rfl, rfl, rfl, ?_⟩
      rw [tryRule_of_match (p := { text, scope }) hs hm]
      simp only [deeds_append, hidle, List.nil_append]
      exact fire_eq_turn ⟨r, text, scope, _⟩ _ rfl

lemma turns_cons (r : Rule) (rs : List Rule) (p : Pass) (state : State) :
    ctx.turns kind actor (r :: rs) p state =
      (ctx.turn? kind actor ⟨r, p, state⟩).toList ++
        let tried := ctx.tryRule kind actor r p state
        if tried.value.cancelled then [] else ctx.turns kind actor rs tried.value tried.state := by
  simp only [turns, trials]
  rw [List.filterMap_cons]
  cases ctx.turn? kind actor ⟨r, p, state⟩ <;> simp only [] <;> split <;> rfl

/-- The deeds of a pass are those of its turns in a row, and the turns hand on the text. -/
theorem tryRules_turn_by_turn {rs : List Rule} {p : Pass} {state : State} (hp : p.cancelled = false) :
    let done := ctx.tryRules kind actor rs p state
    let turns := ctx.turns kind actor rs p state
    deeds done.effects = turns.flatMap (ctx.segment kind actor) ∧
    (turns.map (·.rule)).Sublist rs ∧
    ctx.Follows kind actor p.text p.scope turns ⟨done.value.text, done.value.cancelled⟩ := by
  induction rs generalizing p state with
  | nil =>
    refine ⟨rfl, .slnil, ?_⟩
    rw [tryRules, Work.pure_apply, hp]
    exact .done p.text p.scope
  | cons r rs ih =>
    obtain ⟨text, scope, cancelled⟩ := p
    obtain rfl : cancelled = false := hp
    simp only [turns_cons, tryRules, Work.bind_apply]
    obtain ⟨hturn, hvalue, hdeeds⟩ | ⟨u, hturn, rfl, rfl, rfl, hvalue, hdeeds⟩ :=
      @tryRule_eq_turn ctx kind actor ⟨r, ⟨text, scope, false⟩, state⟩ rfl
    · obtain ⟨ihdeeds, ihrules, ihfollows⟩ := @ih ⟨text, scope, false⟩
        (ctx.tryRule kind actor r ⟨text, scope, false⟩ state).state rfl
      simp only [hturn, hvalue, hdeeds, Bool.false_eq_true, if_false, deeds_append,
        Option.toList_none, List.nil_append]
      exact ⟨ihdeeds, ihrules.cons r, ihfollows⟩
    · simp only [hturn, hvalue, deeds_append, hdeeds, Option.toList_some]
      -- the turn ends the pass through its handler or through its rule, or the next rule has the text
      cases hstops : ctx.stops kind actor u with
      | true =>
        simp only [Bool.true_or, if_true, Work.pure_apply, deeds_nil, List.append_nil]
        exact ⟨by simp, by simp, .stopped u hstops⟩
      | false =>
        simp only [Bool.false_or, Bool.false_eq_true, if_false]
        cases hcancels : u.rule.cancels with
        | true =>
          simp only [if_true, Work.pure_apply, deeds_nil, List.append_nil]
          exact ⟨by simp, by simp, .denied u hstops hcancels⟩
        | false =>
          obtain ⟨ihdeeds, ihrules, ihfollows⟩ := @ih
            ⟨u.left, (u.rule.acting? kind actor u.found).elim u.scope u.scope.after, false⟩
            (ctx.tryRule kind actor u.rule ⟨u.found, u.scope, false⟩ state).state rfl
          simp only [Bool.false_eq_true, if_false, List.singleton_append]
          refine ⟨?_, ?_, .next u _ _ hstops hcancels ihfollows⟩
          · rw [ihdeeds, List.flatMap_cons]
          · simpa using ihrules

/-! ### At most once -/

/-- At most one effect for each of several things, in their order. -/
def OncePer {α : Type} (xs : List α) (es : List Effect) : Prop :=
  ∃ f : α → Option Effect, es = xs.filterMap f

lemma oncePer_map_filter {α : Type} (f : α → Effect) (p : α → Bool) (xs : List α) :
    OncePer xs ((xs.filter p).map f) := by
  refine ⟨fun x => if p x then some (f x) else none, ?_⟩
  induction xs with
  | nil => rfl
  | cons x xs ih => cases h : p x <;> simp [h, ih]

lemma oncePer_flatMap {α : Type} {f : α → List Effect} (h : ∀ x, (f x).length ≤ 1) (xs : List α) :
    OncePer xs (xs.flatMap f) := by
  refine ⟨fun x => (f x).head?, ?_⟩
  induction xs with
  | nil => rfl
  | cons x xs ih =>
    have hx := h x
    rw [List.flatMap_cons, ih, List.filterMap_cons]
    match f x, hx with
    | [], _ => rfl
    | [e], _ => rfl

lemma length_messageEffects_le (h : Handler) (values : Placeholders) (actor : Actor) (s : Scope)
    (k : MessageKind) : (h.messageEffects values actor s k).length ≤ 1 := by
  cases hm : h.message? k with
  | none =>
    cases k <;> simp_all [Handler.message?, Handler.messageEffects, Handler.warningEffects,
      Handler.broadcastEffects]
  | some text =>
    by_cases hs : s.last k = some text
    · rw [Handler.messageEffects_of_last hm hs]
      exact Nat.zero_le 1
    · obtain ⟨e, he⟩ := Handler.messageEffects_of_not_last hm hs values actor
      rw [he]
      exact Nat.le_refl 1

lemma length_customCommand_le (text command : String) :
    (customCommand actor text command).length ≤ 1 := by
  unfold customCommand
  split <;> simp

variable (ctx kind actor) in
/-- Effects of one kind that a turn has at most once: for each player online if they are messages,
for each command listed if they are commands, and at all if they are anything else. -/
def DoneOnce (t : Turn) (d : Deed) (es : List Effect) : Prop :=
  match d with
  | .notice | .alert => OncePer ctx.online es
  | .handlerCommand => OncePer ((t.rule.acting? kind actor t.found).toList.flatMap (·.commands)) es
  | .command => OncePer t.rule.commands es
  | _ => es.length ≤ 1

theorem doneOnce_deedsOf (t : Turn) (d : Deed) (text : String) :
    ctx.DoneOnce kind actor t d (ctx.deedsOf kind actor t d text) := by
  have hhandler (does : Handler → List Effect) (h : ∀ h, (does h).length ≤ 1) :
      ((t.rule.acting? kind actor t.found).toList.flatMap does).length ≤ 1 := by
    cases t.rule.acting? kind actor t.found with
    | none => simp
    | some acting => simpa using h acting
  have hoption {α : Type} (o : Option α) (f : α → Effect) : (o.toList.map f).length ≤ 1 := by
    cases o <;> simp
  have hcommand (text command : String) := @length_customCommand_le actor text command
  cases d with
  | violation =>
    simp only [DoneOnce, deedsOf]
    split <;> simp
  | notice =>
    simp only [DoneOnce, deedsOf, noticeEffects, holders]
    split
    · exact oncePer_map_filter ..
    · exact ⟨fun _ => none, by simp⟩
  | handlerWarning => exact hhandler _ fun h => length_messageEffects_le h _ _ _ .warning
  | broadcast => exact hhandler _ fun h => length_messageEffects_le h _ actor _ .broadcast
  | alert =>
    simp only [DoneOnce, deedsOf]
    cases t.rule.acting? kind actor t.found with
    | none => exact ⟨fun _ => none, by simp⟩
    | some h =>
      simp only [Option.toList_some, List.flatMap_cons, List.flatMap_nil, List.append_nil,
        Handler.alertEffects, holders]
      split
      · exact oncePer_map_filter ..
      · exact ⟨fun _ => none, by simp⟩
  | handlerCommand =>
    simp only [DoneOnce, deedsOf]
    cases t.rule.acting? kind actor t.found with
    | none => exact ⟨fun _ => none, rfl⟩
    | some h => simpa using oncePer_flatMap (fun command => hcommand _ _) h.commands
  | handlerFile => exact hhandler _ fun h => hoption _ _
  | handlerFine => exact hhandler _ fun h => hoption _ _
  | command => exact oncePer_flatMap (fun command => hcommand _ _) _
  | warning => exact hoption _ _
  | fine => exact hoption _ _
  | kick => exact hoption _ _

/-! ### Evaluations -/

variable (ctx kind actor) in
/-- A turn of a rule that is not skipped and matches the text that it finds. What it leaves is the
text after its handler, its rewrite and its replacement. -/
structure IsTurn (t : Turn) (state : State) : Prop where
  tried : t.rule.skips kind actor = false
  matches_found : (ctx.ruleMatches state.chance.pace t.rule t.found state.drawn).value = true
  left_eq : t.left = (ctx.changed kind actor state.chance t.rule t.found
    (ctx.ruleMatches state.chance.pace t.rule t.found state.drawn).state).value

lemma exists_isTurn {rs : List Rule} {t : Turn} (h : t ∈ ctx.turns kind actor rs p state) :
    ∃ state, ctx.IsTurn kind actor t state := by
  obtain ⟨trial, -, ht⟩ := List.mem_filterMap.1 h
  refine ⟨trial.state, ?_⟩
  unfold turn? at ht
  cases hs : trial.rule.skips kind actor with
  | true => simp [hs] at ht
  | false =>
    cases hm : (ctx.ruleMatches trial.state.chance.pace trial.rule trial.before.text
        trial.state.drawn).value with
    | false => simp [hs, hm] at ht
    | true =>
      simp only [hs, hm, Bool.false_eq_true, if_false, if_true, Option.some.injEq] at ht
      subst ht
      exact ⟨hs, hm, rfl⟩

lemma deeds_passSeen (kind : EventKind) (run : Done Pass) :
    deeds (passSeen kind run).2 = deeds run.effects := by
  have hcount (c : Counter) : deeds [.count c] = [] := rfl
  rw [passSeen, ← List.singleton_append, deeds_append, hcount, List.nil_append, deeds_append,
    deeds_visible]
  split
  · rw [hcount, List.append_nil]
  · rw [deeds_nil, List.append_nil]

variable (ctx kind actor) in
lemma deeds_evaluate (rules : RuleSet) (text : String) (state : State) :
    deeds (ctx.evaluate rules kind actor text state).effects =
      (ctx.turns kind actor (rules.inOrder kind) { text } state).flatMap (ctx.segment kind actor) := by
  obtain ⟨-, -, heffects⟩ := Done.mk.inj (shown_evaluate ctx kind actor rules text state)
  rw [← deeds_visible, heffects, deeds_passSeen]
  exact (tryRules_turn_by_turn rfl).1

variable (ctx kind actor) in
/-- The turns of an evaluation hand on the text until it is that of the evaluation. -/
lemma follows_evaluate (rules : RuleSet) (text : String) (state : State) :
    ctx.Follows kind actor text {} (ctx.turns kind actor (rules.inOrder kind) { text } state)
      (ctx.evaluate rules kind actor text state).value := by
  obtain ⟨hvalue, -, -⟩ := Done.mk.inj (shown_evaluate ctx kind actor rules text state)
  rw [hvalue]
  exact (tryRules_turn_by_turn (p := { text }) rfl).2.2

/-- An evaluation is a succession of turns, one for each rule that matches, in the order of the
rules. The deeds of the evaluation are those of its turns, one after the other, and each turn has
its deeds in the fixed order and at most once. Each turn finds the text that the one before it left,
and the text after the last one is the text of the evaluation. -/
theorem evaluate_turn_by_turn (ctx : Context) (kind : EventKind) (actor : Actor) (rules : RuleSet)
    (text : String) (state : State) :
    let done := ctx.evaluate rules kind actor text state
    let turns := ctx.turns kind actor (rules.inOrder kind) { text } state
    deeds done.effects = turns.flatMap (ctx.segment kind actor) ∧
    (turns.map (·.rule)).Sublist (rules.inOrder kind) ∧
    (∀ t ∈ turns, (∃ state, ctx.IsTurn kind actor t state) ∧
      ∀ d about, ctx.DoneOnce kind actor t d (ctx.deedsOf kind actor t d about)) ∧
    ctx.Follows kind actor text {} turns done.value := by
  intro done turns
  have hrules : (turns.map (·.rule)).Sublist (rules.inOrder kind) :=
    (@tryRules_turn_by_turn ctx kind actor _ { text } state rfl).2.1
  refine ⟨deeds_evaluate .., hrules, fun t ht => ⟨exists_isTurn ht, ?_⟩, follows_evaluate ..⟩
  intro d about
  exact doneOnce_deedsOf t d about

end Context

end Engine

end Moderation
