import Moderation.Proofs.Engine.Packet
import Moderation.Proofs.Engine.Server

/-!
Many calls at once. A server works at its calls in turns: an evaluation first takes hold of the rules
that are in force and then tries one rule a turn, a packet goes on by one text a turn, and new rules
are put in force in one turn and what was compiled is dropped in another. A call that has the server
to itself comes to what it comes to in one go.
-/
namespace Moderation

/-- A stage on the way of a text: the heading of a category with the number of its rules, or a rule. -/
inductive Stage
  | heading (category : Category) (rules : Nat)
  | rule (rule : Rule)

/-- The way of a text through the rules of a category. -/
def RuleSet.stagesOf (s : RuleSet) (c : Category) : List Stage :=
  .heading c (s.get c).length :: (s.get c).map .rule

/-- The way of a text of a kind of events through all rules. -/
def RuleSet.stages (s : RuleSet) (kind : EventKind) : List Stage :=
  s.stagesOf .general ++ s.stagesOf kind.category

namespace Engine

/-- Something that is asked of a server. -/
inductive Call
  | evaluate (kind : EventKind) (actor : Actor) (text : String)
  | rewrite (actor : Actor) (tree : Tree)
  | replace (rules : RuleSet)
  | reload (loader : Loader)

/-- How far a call has come. A task that has taken hold of rules keeps what it still needs of them;
`news` is what is logged once new rules are in force. -/
inductive Task
  | evaluate (kind : EventKind) (actor : Actor) (text : String)
  | evaluating (kind : EventKind) (actor : Actor) (text : String) (todo : List Stage) (pass : Pass)
  | evaluated (result : Evaluation)
  | rewrite (actor : Actor) (tree : Tree)
  | rewriting (actor : Actor) (rules : RuleSet) (tree : Tree) (todo done : List String)
  | rewritten (result : Option Tree)
  | reload (loader : Loader)
  | failed (error : LoadError)
  | publish (rules : RuleSet) (news : List LogEntry)
  | clear (news : List LogEntry)
  | published

/-- A call at its start. -/
def Call.task : Call → Task
  | .evaluate kind actor text => .evaluate kind actor text
  | .rewrite actor tree => .rewrite actor tree
  | .replace rules => .publish rules []
  | .reload loader => .reload loader

/-- Whether nothing is left to do. -/
def Task.isFinished : Task → Bool
  | .evaluated _ | .rewritten _ | .failed _ | .published => true
  | _ => false

/-- Whether a task holds all the rules that it needs. -/
def Task.isEquipped : Task → Bool
  | .evaluating .. | .rewriting .. => true
  | t => t.isFinished

namespace Context
variable (ctx : Context) (kind : EventKind) (actor : Actor)

def enter : Stage → Pass → Work Pass
  | .heading c n, p => do
    .say .debug ("Checking " ++ c.title ++ " rules")
      [("category", c.title), ("rules", toString n)]
    return p
  | .rule r, p => ctx.tryRule kind actor r p

/-- Stages from first to last until a rule cancels. -/
def enterAll : List Stage → Pass → Work Pass
  | [], p => pure p
  | g :: gs, p => if p.cancelled then pure p else do enterAll gs (← ctx.enter kind actor g p)

/-- The end of an evaluation. -/
def conclude (text : String) (p : Pass) : Work Evaluation := do
  if p.cancelled then
    .emitAll [.count .cancellation, ctx.line "Original message cancelled."]
  else if p.text ≠ text then
    .emit (ctx.line ("FINAL: " ++ p.text))
  return ⟨p.text, p.cancelled⟩

/-- One turn of a task that needs nothing but its own rules. -/
def step : Task → Work Task
  | .evaluating kind actor text (g :: gs) p =>
    if p.cancelled then .evaluated <$> ctx.conclude text p
    else .evaluating kind actor text gs <$> ctx.enter kind actor g p
  | .evaluating _ _ text [] p => .evaluated <$> ctx.conclude text p
  | .rewriting actor rules tree (s :: ss) done => do
    match ← ctx.rewriteLeaf rules actor s with
    | some s => return .rewriting actor rules tree ss (done ++ [s])
    | none =>
      .emit (.count .packetCancellation)
      return .rewritten none
  | .rewriting _ _ tree [] done => return .rewritten (some (tree.withTexts done))
  | t => return t

/-- Some turns of such a task. -/
def steps : Nat → Task → Work Task
  | 0, t => pure t
  | n + 1, t => do steps n (← ctx.step t)

end Context

/-- One turn of a task. -/
def Server.turn (s : Server) (f : Folder) : Task → Task × Folder × Server
  | .evaluate kind actor text =>
    (.evaluating kind actor text (s.rules.stages kind) { text }, f,
      s.absorb (.count (.evaluation kind.label)))
  | .rewrite actor tree => (.rewriting actor s.rules tree tree.texts [], f, s)
  | .publish rules news => (.clear news, f, { s with rules })
  | .clear news => (.published, f, (s.withState { s.state with compiled := [] }).say news)
  | .reload l =>
    let (result, shelf) := (l.load.run).run { folder := f }
    match result with
    | .ok rules =>
      (.publish rules
        [⟨.info, "Reloaded rules", [("rules", toString rules.size), ("dir", l.path)]⟩],
        shelf.folder, s.say shelf.log)
    | .error e => (.failed e, shelf.folder, s.say shelf.log)
  | t =>
    let (t, s) := s.run (s.context.step t)
    (t, f, s)

/-- A server at work, the folder of its rules, and how far each call has come. -/
structure Traffic where
  server : Server
  folder : Folder
  tasks : List Task

/-- Something that happens: a call comes, a task has its turn, or players come and go, the dice fall
anew and the files are edited. -/
inductive Move
  | call (call : Call)
  | turn (task : Nat)
  | meanwhile (online : List Actor) (dice : List Rolls) (folder : Folder)

/-- Whether a task has its turn. -/
def Move.isTurnOf (i : Nat) : Move → Bool
  | .turn j => j == i
  | _ => false

namespace Traffic

def move (x : Traffic) : Move → Traffic
  | .call c => { x with tasks := x.tasks ++ [c.task] }
  | .turn i =>
    match x.tasks[i]? with
    | some t =>
      let (t, folder, server) := x.server.turn x.folder t
      ⟨server, folder, x.tasks.set i t⟩
    | none => x
  | .meanwhile online dice folder =>
    let host := { x.server.host with online }
    let state := { x.server.state with dice }
    { x with server := { x.server with host, state }, folder }

/-- What becomes of a server when things happen one after the other. -/
def run (x : Traffic) (moves : List Move) : Traffic := moves.foldl move x

@[simp] theorem run_nil (x : Traffic) : x.run [] = x := rfl

@[simp] theorem run_cons (x : Traffic) (m : Move) (moves : List Move) :
    x.run (m :: moves) = (x.move m).run moves := rfl

theorem run_append (x : Traffic) (moves more : List Move) :
    x.run (moves ++ more) = (x.run moves).run more := List.foldl_append ..

end Traffic

/-! ### Turns of work -/

namespace Context
variable (ctx : Context) {kind : EventKind} {actor : Actor}

@[simp] theorem enterAll_nil (p : Pass) : ctx.enterAll kind actor [] p = pure p := rfl

@[simp] theorem enterAll_of_cancelled {p : Pass} (hp : p.cancelled = true) (gs : List Stage) :
    ctx.enterAll kind actor gs p = pure p := by
  cases gs with
  | nil => rfl
  | cons g gs => simp [enterAll, hp]

lemma enterAll_append (gs hs : List Stage) (p : Pass) :
    ctx.enterAll kind actor (gs ++ hs) p =
      ctx.enterAll kind actor gs p >>= ctx.enterAll kind actor hs := by
  induction gs generalizing p with
  | nil => simp
  | cons g gs ih =>
    by_cases hp : p.cancelled = true
    · simp [hp]
    · simp only [List.cons_append, enterAll, hp, Bool.false_eq_true, if_false, bind_assoc, ih]

lemma enterAll_rules (rs : List Rule) {p : Pass} (hp : p.cancelled = false) :
    ctx.enterAll kind actor (rs.map .rule) p = ctx.tryRules kind actor rs p := by
  induction rs generalizing p with
  | nil => rfl
  | cons r rs ih =>
    simp only [List.map_cons, enterAll, hp, Bool.false_eq_true, if_false, enter, tryRules]
    refine bind_congr fun q => ?_
    by_cases hq : q.cancelled = true
    · simp [hq]
    · simp only [ih (Bool.eq_false_iff.2 hq), hq, Bool.false_eq_true, if_false]

lemma enterAll_stagesOf (rules : RuleSet) (c : Category) {p : Pass} (hp : p.cancelled = false) :
    ctx.enterAll kind actor (rules.stagesOf c) p = ctx.tryCategory rules kind actor c p := by
  simp only [RuleSet.stagesOf, enterAll, hp, Bool.false_eq_true, if_false, enter, bind_assoc,
    pure_bind, enterAll_rules ctx _ hp, tryCategory]

/-- The way through all rules is that through the general ones and then that through those of the
kind of event. -/
theorem enterAll_stages (rules : RuleSet) {p : Pass} (hp : p.cancelled = false) :
    ctx.enterAll kind actor (rules.stages kind) p = ctx.tryAll rules kind actor p := by
  rw [RuleSet.stages, enterAll_append, enterAll_stagesOf _ _ _ hp, tryAll]
  refine bind_congr fun q => ?_
  by_cases hq : q.cancelled = true
  · simp [hq]
  · simp only [enterAll_stagesOf _ _ _ (Bool.eq_false_iff.2 hq), hq, Bool.false_eq_true, if_false]

/-- An evaluation is counted, goes through its stages, and is concluded. -/
theorem evaluate_eq (rules : RuleSet) (text : String) :
    ctx.evaluate rules kind actor text = (do
      .emit (.count (.evaluation kind.label))
      ctx.conclude text (← ctx.enterAll kind actor (rules.stages kind) { text })) := by
  rw [enterAll_stages _ _ rfl]
  rfl

/-- A packet is rewritten text by text. -/
theorem rewritePacket_eq (rules : RuleSet) (tree : Tree) :
    ctx.rewritePacket rules actor tree = (do
      match ← ctx.rewriteTexts rules actor tree.texts with
      | some texts => return some (tree.withTexts texts)
      | none =>
        .emit (.count .packetCancellation)
        return none) := by
  simp only [rewritePacket, rewriteTree_eq, rewriteAll, map_eq_pure_bind, bind_assoc, pure_bind]
  refine bind_congr fun texts => ?_
  cases texts <;> simp

lemma step_of_isFinished {t : Task} (h : t.isFinished = true) : ctx.step t = pure t := by
  cases t <;> first | rfl | simp [Task.isFinished] at h

lemma steps_of_isFinished {t : Task} (h : t.isFinished = true) (n : Nat) :
    ctx.steps n t = pure t := by
  induction n with
  | zero => rfl
  | succ n ih => simp only [steps, step_of_isFinished ctx h, pure_bind, ih]

lemma steps_add (m n : Nat) (t : Task) : ctx.steps (m + n) t = ctx.steps m t >>= ctx.steps n := by
  induction m generalizing t with
  | zero => simp [steps]
  | succ m ih => simp only [Nat.succ_add, steps, bind_assoc, ih]

/-- An evaluation that has taken hold of its rules ends after one turn for each stage and one
more. -/
theorem steps_evaluating (text : String) (todo : List Stage) (p : Pass) :
    ctx.steps (todo.length + 1) (.evaluating kind actor text todo p) = (do
      .evaluated <$> ctx.conclude text (← ctx.enterAll kind actor todo p)) := by
  induction todo generalizing p with
  | nil => simp [steps, step]
  | cons g gs ih =>
    by_cases hp : p.cancelled = true
    · simp only [steps, step, enterAll, hp, if_true, map_eq_pure_bind, bind_assoc, pure_bind]
      exact bind_congr fun e => ctx.steps_of_isFinished (t := .evaluated e) rfl _
    · rw [List.length_cons, steps, step, enterAll, if_neg hp, if_neg hp]
      simp only [map_eq_pure_bind, bind_assoc, pure_bind, ih]

/-- A packet that has taken hold of its rules ends after one turn for each text and one more. -/
theorem steps_rewriting (rules : RuleSet) (tree : Tree) (todo done : List String) :
    ctx.steps (todo.length + 1) (.rewriting actor rules tree todo done) = (do
      match ← ctx.rewriteTexts rules actor todo with
      | some texts => return .rewritten (some (tree.withTexts (done ++ texts)))
      | none =>
        .emit (.count .packetCancellation)
        return .rewritten none) := by
  induction todo generalizing done with
  | nil => simp [steps, step, rewriteTexts]
  | cons s ss ih =>
    rw [List.length_cons, steps, step, rewriteTexts]
    simp only [bind_assoc]
    refine bind_congr fun rewritten => ?_
    cases rewritten with
    | none =>
      simp only [bind_assoc, pure_bind, ctx.steps_of_isFinished (t := .rewritten none) rfl]
    | some s' =>
      simp only [pure_bind, bind_assoc, ih]
      refine bind_congr fun texts => ?_
      cases texts <;> simp

end Context

/-! ### A call that has the server to itself -/

lemma Server.turn_of_isEquipped {t : Task} (h : t.isEquipped = true) (s : Server) (f : Folder) :
    s.turn f t = ((s.run (s.context.step t)).1, f, (s.run (s.context.step t)).2) := by
  cases t <;> first | rfl | simp [Task.isEquipped, Task.isFinished] at h

lemma Context.isEquipped_step (ctx : Context) {t : Task} (h : t.isEquipped = true)
    (state : State) : (ctx.step t state).value.isEquipped = true := by
  cases t with
  | evaluating kind actor text todo p =>
    cases todo with
    | nil => rfl
    | cons g gs =>
      by_cases hp : p.cancelled = true <;> simp [step, hp, Task.isEquipped, Task.isFinished]
  | rewriting actor rules tree todo done =>
    cases todo with
    | nil => rfl
    | cons s ss =>
      cases hs : (ctx.rewriteLeaf rules actor s state).value <;>
        simp [step, hs, Task.isEquipped, Task.isFinished]
  | evaluated | rewritten | failed | published => rfl
  | evaluate | rewrite | reload | publish | clear => simp [Task.isEquipped, Task.isFinished] at h

/-- What a call comes to in one go. -/
def Server.answer (s : Server) (f : Folder) : Call → Task × Folder × Server
  | .evaluate kind actor text =>
    let (e, s) := s.evaluate kind actor text
    (.evaluated e, f, s)
  | .rewrite actor tree =>
    let (t, s) := s.rewritePacket actor tree
    (.rewritten t, f, s)
  | .replace rules => (.published, f, s.publish rules)
  | .reload l =>
    match s.reload l f with
    | (.ok (), f, s) => (.published, f, s)
    | (.error e, f, s) => (.failed e, f, s)

namespace Traffic
variable (s : Server) (f : Folder)

/-- The turns of a task that holds its rules are one piece of work. -/
lemma run_steps {t : Task} (h : t.isEquipped = true) (n : Nat) :
    run ⟨s, f, [t]⟩ (.replicate n (.turn 0)) =
      ⟨(s.run (s.context.steps n t)).2, f, [(s.run (s.context.steps n t)).1]⟩ := by
  induction n generalizing s t with
  | zero => rfl
  | succ n ih =>
    rw [List.replicate_succ, run_cons, move]
    simp only [List.getElem?_cons_zero, Server.turn_of_isEquipped h, List.set_cons_zero]
    have h' : (s.run (s.context.step t)).1.isEquipped = true := s.context.isEquipped_step h _
    rw [ih _ h', (s.sameGround_run _).context, Context.steps, s.run_bind]

/-- A call that has the server to itself comes in turns to what it comes to in one go. -/
theorem run_alone (c : Call) :
    ∃ n, run ⟨s, f, [c.task]⟩ (.replicate n (.turn 0)) =
      ⟨(s.answer f c).2.2, (s.answer f c).2.1, [(s.answer f c).1]⟩ := by
  cases c with
  | evaluate kind actor text =>
    refine ⟨(s.rules.stages kind).length + 1 + 1, ?_⟩
    rw [List.replicate_succ, run_cons]
    refine (run_steps _ f (t := .evaluating kind actor text _ _) rfl _).trans ?_
    rw [(s.sameGround_absorb _).context, Context.steps_evaluating]
    simp only [Server.answer, Server.evaluate, Context.evaluate_eq, map_eq_pure_bind, Server.run_bind,
      Server.run_pure, Server.run_emit]
  | rewrite actor tree =>
    refine ⟨tree.texts.length + 1 + 1, ?_⟩
    rw [List.replicate_succ, run_cons]
    refine (run_steps s f (t := .rewriting actor s.rules tree _ []) rfl _).trans ?_
    rw [Context.steps_rewriting]
    simp only [Server.answer, Server.rewritePacket, Context.rewritePacket_eq, Server.run_bind]
    cases (s.run (s.context.rewriteTexts s.rules actor tree.texts)).1 with
    | none => simp only [Server.run_bind, Server.run_emit, Server.run_pure]
    | some texts => simp only [Server.run_pure, List.nil_append]
  | replace rules =>
    refine ⟨2, ?_⟩
    exact congrArg (fun s => (⟨s, f, [.published]⟩ : Traffic)) (s.publish rules).say_nil
  | reload l =>
    simp only [Server.answer, Server.reload]
    cases h : (l.load.run).run { folder := f } with
    | mk result shelf =>
      cases result with
      | ok rules => exact ⟨3, by simp [Call.task, move, Server.turn, h]; rfl⟩
      | error e => exact ⟨1, by simp [Call.task, move, Server.turn, h]⟩

end Traffic

end Engine

end Moderation
