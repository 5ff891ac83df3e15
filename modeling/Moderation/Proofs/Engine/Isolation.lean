import Mathlib.Data.List.Induction
import Moderation.Proofs.Engine.Surroundings
import Moderation.Proofs.Engine.Traffic

/-!
Evaluations and packets are isolated. What becomes of one is decided when it takes hold of the rules
that are in force, whatever other calls, new rules and dropped caches come in between.
-/
namespace Moderation

/-- Whether the dice have no say about a stage. -/
def Stage.Settled : Stage → Prop
  | .heading .. => True
  | .rule r => r.Settled

lemma RuleSet.settled_stages {rules : RuleSet} {kind : EventKind}
    (h : ∀ r ∈ rules.inOrder kind, r.Settled) : ∀ g ∈ rules.stages kind, g.Settled := by
  have hc (c : Category) (hr : ∀ r ∈ rules.get c, r.Settled) :
      ∀ g ∈ rules.stagesOf c, g.Settled := by
    intro g hg
    obtain rfl | hg := List.mem_cons.1 hg
    · trivial
    · obtain ⟨r, hmem, rfl⟩ := List.mem_map.1 hg
      exact hr r hmem
  obtain ⟨hg, hk⟩ := List.forall_mem_append.1 h
  exact List.forall_mem_append.2 ⟨hc _ hg, hc _ hk⟩

namespace Engine
open Work (Agrees IgnoresCache Respects)

/-- Whether neither the rules in force nor the dice have any more say about a task. -/
def Task.Settled : Task → Prop
  | .evaluating _ _ _ todo _ => ∀ g ∈ todo, g.Settled
  | .rewriting .. => True
  | t => t.isFinished = true

/-- Whether a task takes hold of the rules in force with its next turn. -/
def Task.takesRules : Task → Bool
  | .evaluate .. | .rewrite .. => true
  | _ => false

/-- Whether a task has taken hold of rules. -/
def Task.holdsRules : Task → Bool
  | .evaluating .. | .evaluated _ | .rewriting .. | .rewritten _ => true
  | _ => false

lemma Task.Settled.of_isFinished {t : Task} (h : t.isFinished = true) : t.Settled := by
  cases t <;> first | exact h | simp [isFinished] at h

lemma Task.Settled.isEquipped {t : Task} (h : t.Settled) : t.isEquipped = true := by
  cases t <;> first | rfl | exact h

/-! ### Steps -/

namespace Context
variable (ctx : Context) {ctx' : Context} {kind : EventKind} {actor : Actor}

lemma ignoresCache_conclude (text : String) (p : Pass) :
    (ctx.conclude text p).IgnoresCache ctx.budget := by
  refine .ite ?_ (.ite ?_ (.pure _))
  · exact .bind (.emitAll _) fun _ => .pure _
  · exact .bind (.emit _) fun _ => .pure _

lemma respects_enter {settled : Prop} {g : Stage} (hg : settled → g.Settled) (p : Pass) :
    (ctx.enter kind actor g p).Respects ctx.budget settled := by
  cases g with
  | heading c n => exact (IgnoresCache.bind (.say ..) fun _ => .pure _).respects
  | rule r => exact respects_tryRule ctx kind actor hg p

/-- A step comes to the same whatever was compiled before it, and however the dice fall if it is
settled. -/
theorem respects_step {settled : Prop} {t : Task} (ht : settled → t.Settled) :
    (ctx.step t).Respects ctx.budget settled := by
  cases t with
  | evaluating kind actor text todo p =>
    have hconclude : (Task.evaluated <$> ctx.conclude text p).Respects ctx.budget settled :=
      .map (ctx.ignoresCache_conclude text p).respects _
    cases todo with
    | nil => exact hconclude
    | cons g gs =>
      have hg (h : settled) : g.Settled := ht h g List.mem_cons_self
      exact .ite hconclude ((ctx.respects_enter hg p).map _)
  | rewriting actor rules tree todo done =>
    cases todo with
    | nil => exact .pure _
    | cons s ss =>
      refine (respects_rewriteLeaf s).bind fun rewritten => ?_
      cases rewritten with
      | none => exact (IgnoresCache.bind (.emit _) fun _ => .pure _).respects
      | some s' => exact .pure _
  | _ => exact .pure _

variable {ctx}

lemma agrees_enter (hs : ctx.Same ctx') (g : Stage) (p : Pass) :
    (ctx.enter kind actor g p).Agrees (ctx'.enter kind actor g p) := by
  cases g with
  | heading c n => exact .refl _
  | rule r => exact agrees_tryRule hs p

lemma agrees_conclude (hs : ctx.Same ctx') (text : String) (p : Pass) :
    (ctx.conclude text p).Agrees (ctx'.conclude text p) := by
  simp only [conclude, line, hs.settings]
  exact .refl _

/-- What a step comes to does not depend on the players online. -/
theorem agrees_step (hs : ctx.Same ctx') (t : Task) :
    (ctx.step t).Agrees (ctx'.step t) := by
  cases t with
  | evaluating kind actor text todo p =>
    cases todo with
    | nil => exact (agrees_conclude hs ..).map _
    | cons g gs =>
      exact .ite ((agrees_conclude hs ..).map _) ((agrees_enter hs g p).map _)
  | rewriting actor rules tree todo done =>
    cases todo with
    | nil => exact .refl _
    | cons s ss =>
      simp only [step, rewriteLeaf_eq hs]
      exact .refl _
  | _ => exact .refl _

/-- A settled task stays settled. -/
theorem settled_step {t : Task} (ht : t.Settled) (state : State) :
    (ctx.step t state).value.Settled := by
  cases t with
  | evaluating kind actor text todo p =>
    cases todo with
    | nil => exact .of_isFinished rfl
    | cons g gs =>
      by_cases hp : p.cancelled = true
      · simp only [step, hp, if_true, Work.map_apply]
        exact .of_isFinished rfl
      · simp only [step, hp, Bool.false_eq_true, if_false, Work.map_apply]
        exact fun g' hg' => ht g' (List.mem_cons_of_mem g hg')
  | rewriting actor rules tree todo done =>
    cases todo with
    | nil => exact .of_isFinished rfl
    | cons s ss =>
      cases hl : (ctx.rewriteLeaf rules actor s state).value with
      | none =>
        simp only [step, Work.bind_apply, hl]
        exact .of_isFinished rfl
      | some s' =>
        simp only [step, Work.bind_apply, hl]
        trivial
  | _ => exact ht

/-- A settled task comes to the same after some turns, from any two steady states. -/
lemma value_steps_eq (n : Nat) {t : Task} (ht : t.Settled) {state state' : State}
    (h : state.Steady ctx.budget) (h' : state'.Steady ctx.budget) :
    (ctx.steps n t state).value = (ctx.steps n t state').value := by
  induction n generalizing t state state' with
  | zero => rfl
  | succ n ih =>
    have hstep := ctx.respects_step (fun _ : True => ht)
    simp only [steps, Work.bind_apply, hstep.value_eq (h.alike h')]
    exact ih (settled_step ht state') (hstep.steady h) (hstep.steady h')

lemma value_steps_of_le {m n : Nat} (hmn : m ≤ n) {t u : Task} {state : State}
    (h : (ctx.steps m t state).value = u) (hu : u.isFinished = true) :
    (ctx.steps n t state).value = u := by
  obtain ⟨k, rfl⟩ := Nat.exists_eq_add_of_le hmn
  rw [steps_add, Work.bind_apply, h, steps_of_isFinished ctx hu]
  rfl

end Context

/-! ### Moves -/

/-- Whether all that was compiled on a server is what compiling gives, and time is never short or there
is none. -/
def Server.Steady (s : Server) : Prop := s.state.Steady s.context.budget

namespace Server
variable {s : Server}

/-- While a folder is loaded, nothing but the log changes on the server. -/
lemma turn_reload (s : Server) (f : Folder) (l : Loader) :
    ∃ entries, (s.turn f (.reload l)).2.2 = s.say entries := by
  simp only [turn]
  cases (l.load.run).run { folder := f } with
  | mk result shelf => exact ⟨shelf.log, by cases result <;> rfl⟩

lemma same_turn (s : Server) (f : Folder) (t : Task) :
    (s.turn f t).2.2.context.Same s.context := by
  cases t with
  | evaluate kind actor text =>
    exact ⟨(s.sameGround_absorb _).settings, (s.sameGround_absorb _).library⟩
  | rewrite | publish | clear => exact ⟨rfl, rfl⟩
  | reload l =>
    obtain ⟨entries, h⟩ := s.turn_reload f l
    rw [h]
    exact ⟨rfl, rfl⟩
  | evaluating | rewriting | evaluated | rewritten | failed | published =>
    exact ⟨(s.sameGround_run _).settings, (s.sameGround_run _).library⟩

/-- A turn leaves a steady server steady. -/
theorem Steady.turn (hs : s.Steady) (f : Folder) (t : Task) : (s.turn f t).2.2.Steady := by
  unfold Steady at *
  rw [(s.same_turn f t).budget]
  cases t with
  | evaluate kind actor text => exact (s.state_absorb _).symm ▸ hs
  | rewrite | publish => exact hs
  | clear => exact ⟨Cache.sound_nil _, hs.clock⟩
  | reload l =>
    obtain ⟨entries, h⟩ := s.turn_reload f l
    rw [h]
    exact hs
  | evaluating | rewriting | evaluated | rewritten | failed | published =>
    simp only [Server.turn, run_eq, state_withState]
    exact (s.context.respects_step False.elim).steady hs

end Server

namespace Traffic
variable {x : Traffic} {i : Nat} {t : Task}

lemma same_move (x : Traffic) (m : Move) : (x.move m).server.context.Same x.server.context := by
  cases m with
  | call c => exact ⟨rfl, rfl⟩
  | meanwhile online dice folder => exact ⟨rfl, rfl⟩
  | turn i =>
    simp only [move]
    cases x.tasks[i]? with
    | none => exact ⟨rfl, rfl⟩
    | some t => exact x.server.same_turn x.folder t

lemma steady_move (hx : x.server.Steady) (m : Move) : (x.move m).server.Steady := by
  cases m with
  | call c => exact hx
  | meanwhile online dice folder => exact ⟨hx.compiled, hx.clock⟩
  | turn i =>
    simp only [move]
    cases x.tasks[i]? with
    | none => exact hx
    | some t => exact hx.turn x.folder t

lemma steady_run (hx : x.server.Steady) (moves : List Move) : (x.run moves).server.Steady := by
  induction moves generalizing x with
  | nil => exact hx
  | cons m moves ih => exact ih (steady_move hx m)

lemma tasks_move_turn (h : x.tasks[i]? = some t) :
    (x.move (.turn i)).tasks[i]? = some (x.server.turn x.folder t).1 := by
  simp [move, h, List.getElem?_set_self (List.getElem?_eq_some_iff.1 h).1]

lemma tasks_move_of_not_turn {m : Move} (hm : m.isTurnOf i = false) (h : x.tasks[i]? = some t) :
    (x.move m).tasks[i]? = some t := by
  cases m with
  | call c => exact (List.getElem?_append_left (List.getElem?_eq_some_iff.1 h).1).trans h
  | meanwhile online dice folder => exact h
  | turn j =>
    have hj : j ≠ i := by simpa [Move.isTurnOf] using hm
    simp only [move]
    cases x.tasks[j]? with
    | none => exact h
    | some u => exact (List.getElem?_set_ne hj).trans h

/-- A task that holds rules after a turn took hold of them in that turn or held them before. -/
lemma holdsRules_turn {s : Server} {f : Folder} (h : (s.turn f t).1.holdsRules = true) :
    t.takesRules = true ∨ t.holdsRules = true := by
  cases t with
  | evaluate | rewrite => exact .inl rfl
  | evaluating | evaluated | rewriting | rewritten => exact .inr rfl
  | publish | clear | published | failed => simp [Server.turn, Server.run, Context.step, Task.holdsRules] at h
  | reload l =>
    simp only [Server.turn] at h
    generalize (l.load.run).run { folder := f } = loaded at h
    obtain ⟨result, shelf⟩ := loaded
    cases result <;> simp [Task.holdsRules] at h

lemma eq_task_of_new {m : Move} (hn : x.tasks[i]? = none) (h : (x.move m).tasks[i]? = some t) :
    ∃ c : Call, t = c.task := by
  have hlen : x.tasks.length ≤ i := List.getElem?_eq_none_iff.1 hn
  cases m with
  | call c =>
    have hc : [c.task][i - x.tasks.length]? = some t :=
      (List.getElem?_append_right hlen).symm.trans h
    exact ⟨c, List.mem_singleton.1 (List.mem_of_getElem? hc)⟩
  | meanwhile online dice folder => exact absurd (hn.symm.trans h) (by simp)
  | turn j =>
    simp only [move] at h
    cases hj : x.tasks[j]? with
    | none => simp [hj, hn] at h
    | some u =>
      have hset := (List.getElem?_eq_some_iff.1 h).1
      simp only [hj, List.length_set] at hset
      omega

/-- What holds rules took hold of them in one of its turns. -/
theorem exists_taking (hx : x.tasks = []) {moves : List Move}
    (h : (x.run moves).tasks[i]? = some t) (ht : t.holdsRules = true) :
    ∃ before after u, moves = before ++ .turn i :: after ∧
      (x.run before).tasks[i]? = some u ∧ u.takesRules = true := by
  induction moves using List.reverseRecOn generalizing t with
  | nil => simp [hx] at h
  | append_singleton moves m ih =>
    rw [run_append, run_cons, run_nil] at h
    have earlier {u : Task} (hu : (x.run moves).tasks[i]? = some u) (hr : u.holdsRules = true) :
        ∃ before after u, moves ++ [m] = before ++ .turn i :: after ∧
          (x.run before).tasks[i]? = some u ∧ u.takesRules = true := by
      obtain ⟨before, after, v, rfl, hv⟩ := ih hu hr
      exact ⟨before, after ++ [m], v, by simp, hv⟩
    cases hu : (x.run moves).tasks[i]? with
    | none =>
      obtain ⟨c, rfl⟩ := eq_task_of_new hu h
      cases c <;> simp [Call.task, Task.holdsRules] at ht
    | some u =>
      cases hm : m.isTurnOf i with
      | false =>
        obtain rfl : u = t := Option.some.inj ((tasks_move_of_not_turn hm hu).symm.trans h)
        exact earlier hu ht
      | true =>
        obtain rfl : m = .turn i := by
          cases m <;> simp_all [Move.isTurnOf]
        rw [tasks_move_turn hu] at h
        obtain rfl := Option.some.inj h
        obtain hk | hk := holdsRules_turn ht
        · exact ⟨moves, [], u, rfl, hu, hk⟩
        · exact earlier hu hk

/-- A settled task is, after any number of turns, where it would be alone: the moves in between, and
what they compile and drop, have no influence. -/
theorem tasks_run (hx : x.server.Steady) {ctx : Context} (hs : x.server.context.Same ctx)
    (h : x.tasks[i]? = some t) (ht : t.Settled) (moves : List Move) :
    (x.run moves).tasks[i]? =
      some (ctx.steps (moves.countP (Move.isTurnOf i)) t {}).value := by
  induction moves generalizing x t with
  | nil => exact h
  | cons m moves ih =>
    have hx' := steady_move hx m
    have hs' := (x.same_move m).trans hs
    cases hm : m.isTurnOf i with
    | false =>
      rw [run_cons, List.countP_cons_of_neg (by simp [hm])]
      exact ih hx' hs' (tasks_move_of_not_turn hm h) ht
    | true =>
      obtain ⟨j, rfl⟩ : ∃ j, m = .turn j := by
        cases m <;> first | exact ⟨_, rfl⟩ | simp [Move.isTurnOf] at hm
      obtain rfl : j = i := by simpa [Move.isTurnOf] using hm
      have hsettled := x.server.context.respects_step (fun _ : True => ht)
      have hstep : (x.server.turn x.folder t).1 = (ctx.step t {}).value := by
        rw [Server.turn_of_isEquipped ht.isEquipped, Server.run_eq]
        exact (hsettled.value_eq (hx.alike (State.steady_nil _))).trans
          ((Context.agrees_step hs t).value_eq {})
      have hafter : (ctx.step t {}).state.Steady ctx.budget :=
        (ctx.respects_step (fun _ : True => ht)).steady (State.steady_nil _)
      have hnext : (ctx.step t {}).value.Settled := Context.settled_step ht {}
      rw [run_cons, List.countP_cons_of_pos hm, Context.steps, Work.bind_apply,
        Context.value_steps_eq _ hnext hafter (State.steady_nil _)]
      exact ih hx' hs' (hstep ▸ tasks_move_turn h) hnext

/-- A settled task has no other end than the one that it has alone, and reaches it with as many
turns. -/
theorem ends_of_steps (hx : x.server.Steady) {ctx : Context} (hs : x.server.context.Same ctx)
    (h : x.tasks[i]? = some t) (ht : t.Settled) {n : Nat} {u : Task}
    (hu : (ctx.steps n t {}).value = u) (hf : u.isFinished = true) (moves : List Move) :
    (∀ v, (x.run moves).tasks[i]? = some v → v.isFinished = true → v = u) ∧
      (n ≤ moves.countP (Move.isTurnOf i) → (x.run moves).tasks[i]? = some u) := by
  rw [tasks_run hx hs h ht]
  refine ⟨fun v hv hvf => ?_, fun hn => ?_⟩
  · obtain hn | hn := Nat.le_total n (moves.countP (Move.isTurnOf i))
    · exact (Option.some.inj hv).symm.trans (Context.value_steps_of_le hn hu hf)
    · exact (Context.value_steps_of_le hn (Option.some.inj hv) hvf).symm.trans hu
  · rw [Context.value_steps_of_le hn hu hf]

lemma value_steps_evaluating {s : Server} (hs : s.Steady) {kind : EventKind}
    (hr : ∀ r ∈ s.rules.inOrder kind, r.Settled) (actor : Actor) (text : String) :
    (s.context.steps ((s.rules.stages kind).length + 1)
      (.evaluating kind actor text (s.rules.stages kind) { text }) {}).value =
      .evaluated (s.evaluate kind actor text).1 := by
  have h := (s.context.respects_evaluate kind actor (fun _ : True => hr) text).value_eq
    (hs.alike (State.steady_nil _))
  simp only [Server.evaluate, Server.run_eq, h]
  simp [Context.steps_evaluating, Context.evaluate_eq]

lemma value_steps_rewriting {s : Server} (hs : s.Steady) (actor : Actor) (tree : Tree) :
    (s.context.steps (tree.texts.length + 1) (.rewriting actor s.rules tree tree.texts [])
      {}).value = .rewritten (s.rewritePacket actor tree).1 := by
  have hw : (s.context.rewriteTexts s.rules actor tree.texts).Respects s.context.budget True :=
    s.context.respects_rewriteTexts tree.texts
  have h := hw.value_eq (hs.alike (State.steady_nil _))
  simp only [Server.rewritePacket, Server.run_eq, Context.rewritePacket_eq,
    Context.steps_rewriting, Work.bind_apply, h]
  cases (s.context.rewriteTexts s.rules actor tree.texts {}).value <;> simp

lemma turn_reload_error {s : Server} {f : Folder} {l : Loader} {e : LoadError}
    (h : (s.reload l f).1 = .error e) :
    (s.turn f (.reload l)).1 = .failed e := by
  simp only [Server.reload] at h
  simp only [Server.turn]
  generalize (l.load.run).run { folder := f } = loaded at h ⊢
  obtain ⟨result, shelf⟩ := loaded
  cases result with
  | ok rules => simp at h
  | error e' =>
    obtain rfl : e' = e := by simpa using h
    rfl

lemma move_of_isFinished (h : x.tasks[i]? = some t) (ht : t.isFinished = true) :
    x.move (.turn i) = x := by
  have hset : x.tasks.set i t = x.tasks := by
    obtain ⟨hi, rfl⟩ := List.getElem?_eq_some_iff.1 h
    exact List.set_getElem_self hi
  simp only [move, h, Server.turn_of_isEquipped (Task.Settled.of_isFinished ht).isEquipped,
    Context.step_of_isFinished _ ht, Server.run_pure, hset]

/-- Evaluations and packets are isolated: whatever happens before, between and after their turns, they
end as they would alone with the rules that were in force when they took hold of them, and they end
after a turn for each stage or text and one more. A reload that fails changes neither the rules in
force nor what was compiled. -/
theorem isolated {x : Traffic} (hx : x.server.Steady) (before after : List Move) (i : Nat) :
    let y := x.run before
    let z := (y.move (.turn i)).run after
    let turns := after.countP (Move.isTurnOf i)
    (∀ kind actor text, y.tasks[i]? = some (.evaluate kind actor text) →
      (∀ r ∈ y.server.rules.inOrder kind, r.Settled) →
      ∀ s : Server, y.server.context.Same s.context → s.rules = y.server.rules → s.Steady →
        (∀ e, z.tasks[i]? = some (.evaluated e) → e = (s.evaluate kind actor text).1) ∧
        ((s.rules.stages kind).length < turns →
          z.tasks[i]? = some (.evaluated (s.evaluate kind actor text).1))) ∧
    (∀ actor tree, y.tasks[i]? = some (.rewrite actor tree) →
      ∀ s : Server, y.server.context.Same s.context → s.rules = y.server.rules → s.Steady →
        (∀ t, z.tasks[i]? = some (.rewritten t) → t = (s.rewritePacket actor tree).1) ∧
        (tree.texts.length < turns →
          z.tasks[i]? = some (.rewritten (s.rewritePacket actor tree).1))) ∧
    ∀ l e, y.tasks[i]? = some (.reload l) → (y.server.reload l y.folder).1 = .error e →
      (y.move (.turn i)).server.rules = y.server.rules ∧
      (y.move (.turn i)).server.state = y.server.state ∧
      z.tasks[i]? = some (.failed e) ∧ z.move (.turn i) = z := by
  intro y z turns
  have hy : y.server.Steady := steady_run hx before
  have hy' : (y.move (.turn i)).server.Steady := steady_move hy _
  have hsame := y.same_move (.turn i)
  refine ⟨fun kind actor text h hr s hs' hrules hs => ?_, fun actor tree h s hs' hrules hs => ?_,
    fun l e h he => ?_⟩
  · have hturn := tasks_move_turn h
    simp only [Server.turn, ← hrules] at hturn
    have ht : Task.Settled (.evaluating kind actor text (s.rules.stages kind) { text }) :=
      RuleSet.settled_stages (hrules ▸ hr)
    obtain ⟨honly, hends⟩ := ends_of_steps hy' (hsame.trans hs') hturn ht
      (value_steps_evaluating hs (hrules.symm ▸ hr) actor text) rfl after
    exact ⟨fun e hz => Task.evaluated.inj (honly _ hz rfl), hends⟩
  · have hturn := tasks_move_turn h
    simp only [Server.turn, ← hrules] at hturn
    obtain ⟨honly, hends⟩ := ends_of_steps hy' (hsame.trans hs') hturn trivial
      (value_steps_rewriting hs actor tree) rfl after
    exact ⟨fun t hz => Task.rewritten.inj (honly _ hz rfl), hends⟩
  · obtain ⟨entries, hsay⟩ := y.server.turn_reload y.folder l
    have hserver : (y.move (.turn i)).server = y.server.say entries := by
      rw [← hsay]
      simp only [move, h]
    have hturn := tasks_move_turn h
    rw [turn_reload_error he] at hturn
    have hz : z.tasks[i]? = some (.failed e) := by
      have hctx := Context.Same.refl (y.move (.turn i)).server.context
      rw [tasks_run hy' hctx hturn (.of_isFinished rfl), Context.steps_of_isFinished _ rfl]
      rfl
    exact ⟨by rw [hserver]; rfl, by rw [hserver]; rfl, hz, move_of_isFinished hz rfl⟩

/-- An evaluation that has taken hold of rules replaces; rules that deny come too late for it. -/
theorem isolated_from_rules_that_deny :
    let steve : Actor := ⟨"steve", "world", .survival, [], none⟩
    let server : Server := {
      settings := {}
      rules := ⟨[(.chat, [{ pattern := "cat", replacements := ["dog"] }])]⟩
      audit := .memory []
      time := "" }
    let before : List Move := [.call (.evaluate .chat steve "cat"),
      .call (.replace ⟨[(.chat, [{ pattern := "cat", cancels := true }])]⟩)]
    let after : List Move := [.turn 1, .turn 0, .turn 1, .turn 0, .turn 0, .turn 0]
    let z := ((run ⟨server, {}, []⟩ before).move (.turn 0)).run after
    z.tasks[0]? = some (.evaluated ⟨"dog", false⟩) ∧
      (z.server.evaluate .chat steve "cat").1 = ⟨"cat", true⟩ := by
  intro steve server before after z
  have hv : (server.evaluate .chat steve "cat").1 = ⟨"dog", false⟩ := by decide +kernel
  have hsettled : ∀ r ∈ server.rules.inOrder .chat, r.Settled := by
    intro r hr
    have hl : server.rules.inOrder .chat = [{ pattern := "cat", replacements := ["dog"] }] :=
      rfl
    rw [hl, List.mem_singleton] at hr
    subst hr
    constructor <;> simp
  have h := (isolated (x := ⟨server, {}, []⟩) (State.steady_nil _) before after 0).1
    .chat steve "cat" rfl hsettled server ⟨rfl, rfl⟩ rfl (State.steady_nil _)
  rw [hv] at h
  exact ⟨h.2 (by decide), by decide +kernel⟩

end Traffic

end Engine

end Moderation
