import Moderation.Proofs.Engine.Tally
import Moderation.Proofs.Engine.Traffic
import Moderation.Proofs.Number.Monotone

/-!
The counters of a server and what has become of its calls. From a fresh start the totals are at every
point those of the calls: evaluations, cancellations and packets that were held back are counted once
each, a fault is counted for each entry about one, and no text is held back without a match.
-/
namespace Moderation.Engine

/-! ### Effects on a server -/

/-- The entries of an audit trail that is kept in a list. -/
def AuditTrail.entries? : AuditTrail → Option (List AuditEntry)
  | .memory entries => some entries
  | .files _ => none

namespace Server
variable (s : Server)

/-- A server whose totals and records have grown by what effects count and put on record. -/
structure Booked (s : Server) (es : List Effect) (s' : Server) : Prop where
  totals : s'.totals = s.totals + tally es
  entries : s'.audit.entries? = s.audit.entries?.map (· ++ recorded es)

lemma booked_nil {s' : Server} (ht : s'.totals = s.totals) (ha : s'.audit = s.audit) :
    s.Booked [] s' where
  totals := by rw [ht, tally_nil, add_zero]
  entries := by simp [ha, recorded]

lemma booked_absorb (e : Effect) : s.Booked [e] (s.absorb e) := by
  obtain ⟨settings, rules, audit, time, state, host, queue, totals, journal, library, crashed⟩ := s
  have hsame : audit.entries? = audit.entries?.map (· ++ []) := by simp
  cases e with
  | audit entry => cases audit <;> exact ⟨(add_zero totals).symm, rfl⟩
  | count c => exact ⟨by cases c <;> rfl, hsame⟩
  | act | later | log | crash => exact ⟨(add_zero totals).symm, hsame⟩

/-- Effects that are carried out add what they count and record. -/
theorem booked_absorbAll (es : List Effect) : s.Booked es (s.absorbAll es) := by
  induction es generalizing s with
  | nil => exact s.booked_nil rfl rfl
  | cons e es ih =>
    obtain ⟨ht, ha⟩ := s.booked_absorb e
    obtain ⟨ht', ha'⟩ := ih (s.absorb e)
    have hstep : s.absorbAll (e :: es) = (s.absorb e).absorbAll es := rfl
    refine ⟨?_, ?_⟩
    · rw [hstep, ht', ht, tally_cons, tally_cons, tally_nil, add_zero, add_assoc]
    · have hrecorded : recorded (e :: es) = recorded [e] ++ recorded es := recorded_append [e] es
      rw [hstep, ha', ha, Option.map_map, hrecorded]
      simp [Function.comp_def]

lemma booked_run {α : Type} (w : Work α) : s.Booked (w s.state).effects (s.run w).2 := by
  rw [run_eq]
  exact ⟨(s.booked_absorbAll _).totals, (s.booked_absorbAll _).entries⟩

end Server

/-! ### What has become of calls -/

def Call.isEvaluate : Call → Bool
  | .evaluate .. => true
  | _ => false

namespace Task

/-- Whether a task is an evaluation that has begun. -/
def isEvaluation : Task → Bool
  | .evaluating .. | .evaluated _ => true
  | _ => false

/-- Whether a task is an evaluation that ended as cancelled. -/
def isCancelled : Task → Bool
  | .evaluated e => e.cancelled
  | _ => false

/-- Whether a task is a packet that was held back. -/
def isWithheld : Task → Bool
  | .rewritten none => true
  | _ => false

/-- Whether a task is an evaluation, at its end or before, whose text is held back. -/
def isHeldBack : Task → Bool
  | .evaluating _ _ _ _ p => p.cancelled
  | .evaluated e => e.cancelled
  | _ => false

lemma isHeldBack_of_isCancelled {t : Task} (h : t.isCancelled = true) : t.isHeldBack = true := by
  cases t <;> simp_all [isCancelled, isHeldBack]

lemma isEvaluation_of_isCancelled {t : Task} (h : t.isCancelled = true) :
    t.isEvaluation = true := by
  cases t <;> simp_all [isCancelled, isEvaluation]

lemma countP_isHeldBack (t : Task) : [t].countP isHeldBack = t.isHeldBack.toNat := by
  rw [List.countP_singleton]
  cases t.isHeldBack <;> rfl

/-- The totals that tasks account for. -/
def shares (ts : List Task) : Totals where
  evaluations := ts.countP isEvaluation
  cancellations := ts.countP isCancelled
  packetCancellations := ts.countP isWithheld

lemma shares_append (ts us : List Task) : shares (ts ++ us) = shares ts + shares us := by
  ext <;> simp [shares, Totals.add_def]

/-- A task goes on to another one while effects happen. They count what becomes of the call, and enough
matches if the text is held back from now on. -/
def GoesOn (t : Task) (es : List Effect) (t' : Task) : Prop :=
  ∃ (more : Totals) (m : Nat), Counts es (more + .matched m) ∧
    shares [t'] = shares [t] + more ∧ t'.isHeldBack.toNat ≤ t.isHeldBack.toNat + m

lemma GoesOn.refl (t : Task) : t.GoesOn [] t := ⟨0, 0, rfl, rfl, le_rfl⟩

end Task

namespace Context
variable (ctx : Context) (kind : EventKind) (actor : Actor)

lemma counts_conclude (text : String) (p : Pass) (state : State) :
    Counts (ctx.conclude text p state).effects { cancellations := p.cancelled.toNat } ∧
      (ctx.conclude text p state).value.cancelled = p.cancelled := by
  unfold conclude
  cases hp : p.cancelled with
  | true => exact ⟨rfl, rfl⟩
  | false =>
    refine ⟨?_, ?_⟩
    · split
      · contradiction
      · split <;> rfl
    · split
      · contradiction
      · split <;> rfl

lemma counts_enter (g : Stage) (p : Pass) (state : State) :
    ∃ m, Counts (ctx.enter kind actor g p state).effects (.matched m) ∧
      (ctx.enter kind actor g p state).value.cancelled.toNat ≤ p.cancelled.toNat + m := by
  cases g with
  | heading c n => exact ⟨0, rfl, le_rfl⟩
  | rule r => exact ctx.counts_tryRule kind actor r p state

lemma goesOn_conclude (text : String) (todo : List Stage) (p : Pass) (state : State) :
    let ended := (Task.evaluated <$> ctx.conclude text p) state
    (Task.evaluating kind actor text todo p).GoesOn ended.effects ended.value := by
  obtain ⟨hcounts, hvalue⟩ := ctx.counts_conclude text p state
  simp only [Work.map_apply]
  refine ⟨{ cancellations := p.cancelled.toNat }, 0, hcounts, ?_, ?_⟩
  · ext <;> simp [Task.shares, Task.isEvaluation, Task.isCancelled, Task.isWithheld, hvalue,
      Totals.add_def]
    cases p.cancelled <;> rfl
  · rw [Task.isHeldBack, Task.isHeldBack, hvalue, add_zero]

/-- A turn of a task goes on with it. -/
theorem goesOn_step (t : Task) (state : State) :
    t.GoesOn (ctx.step t state).effects (ctx.step t state).value := by
  cases t with
  | evaluating kind actor text todo p =>
    cases todo with
    | nil => exact ctx.goesOn_conclude kind actor text [] p state
    | cons g gs =>
      simp only [step]
      split
      · exact ctx.goesOn_conclude kind actor text (g :: gs) p state
      · obtain ⟨m, hcounts, hheld⟩ := ctx.counts_enter kind actor g p state
        exact ⟨0, m, by simpa using hcounts, rfl, hheld⟩
  | rewriting actor rules tree todo done =>
    cases todo with
    | nil => exact ⟨0, 0, rfl, rfl, le_rfl⟩
    | cons s ss =>
      have hleaf := (ctx.countsFaults_rewriteLeaf actor rules s).counts state
      cases hl : (ctx.rewriteLeaf rules actor s state).value with
      | none =>
        have hcount : Counts [.count .packetCancellation] { packetCancellations := 1 } := rfl
        simp only [step, Work.bind_apply, hl]
        exact ⟨{ packetCancellations := 1 }, 0, hleaf.append hcount, rfl, le_rfl⟩
      | some s' =>
        simp only [step, Work.bind_apply, hl]
        exact ⟨0, 0, hleaf.append (counts_of_quiet (by simp)), rfl, le_rfl⟩
  | _ => exact .refl _

end Context

/-- A turn of a task goes on with it, and the server keeps the books. -/
theorem Server.turn_books (s : Server) (f : Folder) (t : Task) :
    ∃ es, s.Booked es (s.turn f t).2.2 ∧ t.GoesOn es (s.turn f t).1 := by
  cases t with
  | evaluate kind actor text =>
    exact ⟨[.count (.evaluation kind.label)], s.booked_absorb _, { evaluations := 1 }, 0, rfl, rfl,
      le_rfl⟩
  | rewrite | publish | clear =>
    exact ⟨[], s.booked_nil rfl rfl, 0, 0, rfl, rfl, le_rfl⟩
  | reload l =>
    simp only [turn]
    generalize (l.load.run).run { folder := f } = loaded
    obtain ⟨result, shelf⟩ := loaded
    cases result <;> exact ⟨[], s.booked_nil rfl rfl, 0, 0, rfl, rfl, le_rfl⟩
  | evaluating | rewriting | evaluated | rewritten | failed | published =>
    exact ⟨_, s.booked_run _, s.context.goesOn_step _ _⟩

/-! ### Runs -/

namespace Traffic
variable {x : Traffic} {s : Server}

/-- Whether the totals and the records of a server are those of its tasks: as many matches as there may
be, but at least one for each text that is held back. -/
def BooksAgree (x : Traffic) : Prop :=
  ∃ entries m, x.server.audit.entries? = some entries ∧
    x.server.totals = Task.shares x.tasks + .matched m + .faulted (faults entries) ∧
    x.tasks.countP Task.isHeldBack ≤ m

lemma booksAgree_turn (h : x.BooksAgree) (i : Nat) : (x.move (.turn i)).BooksAgree := by
  simp only [move]
  cases hi : x.tasks[i]? with
  | none => exact h
  | some t =>
    obtain ⟨entries, m, haudit, htotals, hheld⟩ := h
    obtain ⟨es, hbooked, more, k, hcounts, hshares, hback⟩ := x.server.turn_books x.folder t
    -- the task is one part of the tasks
    obtain ⟨hlt, rfl⟩ := List.getElem?_eq_some_iff.1 hi
    have hbefore : x.tasks = x.tasks.take i ++ ([x.tasks[i]] ++ x.tasks.drop (i + 1)) := by
      rw [List.singleton_append, ← List.drop_eq_getElem_cons hlt, List.take_append_drop]
    have hafter (t' : Task) :
        x.tasks.set i t' = x.tasks.take i ++ ([t'] ++ x.tasks.drop (i + 1)) := by
      rw [List.set_eq_take_append_cons_drop, if_pos hlt]
      rfl
    refine ⟨entries ++ recorded es, m + k, ?_, ?_, ?_⟩
    · rw [hbooked.entries, haudit, Option.map_some]
    · rw [hbefore, Task.shares_append, Task.shares_append] at htotals
      dsimp only
      rw [hbooked.totals, htotals, hcounts, hafter, Task.shares_append, Task.shares_append, hshares,
        faults_append, Totals.faulted_add, Totals.matched_add]
      abel
    · rw [hbefore, List.countP_append, List.countP_append, Task.countP_isHeldBack] at hheld
      dsimp only
      rw [hafter, List.countP_append, List.countP_append, Task.countP_isHeldBack]
      omega

lemma booksAgree_move (h : x.BooksAgree) (m : Move) : (x.move m).BooksAgree := by
  cases m with
  | call c =>
    obtain ⟨entries, m, haudit, htotals, hheld⟩ := h
    have hnew : Task.shares [c.task] = 0 ∧ c.task.isHeldBack = false := by cases c <;> exact ⟨rfl, rfl⟩
    refine ⟨entries, m, haudit, ?_, ?_⟩
    · simp only [move, Task.shares_append, hnew.1, add_zero, htotals]
    · simpa [move, List.countP_append, hnew.2] using hheld
  | meanwhile online dice folder => exact h
  | turn i => exact booksAgree_turn h i

lemma booksAgree_run (h : x.BooksAgree) (moves : List Move) : (x.run moves).BooksAgree := by
  induction moves generalizing x with
  | nil => exact h
  | cons m moves ih => exact ih (booksAgree_move h m)

/-- Whether the counters of a server are those of its calls. Evaluations are counted as soon as they
begin. -/
structure Balanced (x : Traffic) : Prop where
  evaluations : x.server.totals.evaluations = x.tasks.countP Task.isEvaluation
  cancellations : x.server.totals.cancellations = x.tasks.countP Task.isCancelled
  packetCancellations : x.server.totals.packetCancellations = x.tasks.countP Task.isWithheld
  regexFaults : ∃ entries, x.server.audit = .memory entries ∧
    x.server.totals.regexFaults = entries.countP (·.kind.isFault)
  cancellations_le_ruleMatches : x.server.totals.cancellations ≤ x.server.totals.ruleMatches
  cancellations_le_evaluations : x.server.totals.cancellations ≤ x.server.totals.evaluations
  cancellationRate_le_one : x.server.totals.evaluations < 2 ^ 64 →
    ∃ m e, x.server.totals.cancellationRate = .finite false m e ∧ (m * 2 ^ e : ℚ) ≤ 1

lemma BooksAgree.balanced (h : x.BooksAgree) : x.Balanced := by
  obtain ⟨entries, m, haudit, htotals, hheld⟩ := h
  have htotals : x.server.totals = {
      evaluations := x.tasks.countP Task.isEvaluation
      ruleMatches := m
      cancellations := x.tasks.countP Task.isCancelled
      packetCancellations := x.tasks.countP Task.isWithheld
      regexFaults := faults entries } := by
    rw [htotals]
    simp [Task.shares, Totals.matched, Totals.faulted, Totals.add_def]
  have hmemory : x.server.audit = .memory entries := by
    cases ha : x.server.audit with
    | memory => simpa [ha, AuditTrail.entries?] using haudit
    | files => simp [ha, AuditTrail.entries?] at haudit
  have hmatches : x.tasks.countP Task.isCancelled ≤ m :=
    (List.countP_mono_left fun t _ => Task.isHeldBack_of_isCancelled).trans hheld
  have hevaluations : x.tasks.countP Task.isCancelled ≤ x.tasks.countP Task.isEvaluation :=
    List.countP_mono_left fun t _ => Task.isEvaluation_of_isCancelled
  exact {
    evaluations := by rw [htotals]
    cancellations := by rw [htotals]
    packetCancellations := by rw [htotals]
    regexFaults := ⟨entries, hmemory, by rw [htotals]; rfl⟩
    cancellations_le_ruleMatches := by rwa [htotals]
    cancellations_le_evaluations := by rwa [htotals]
    cancellationRate_le_one := fun hfits => by
      rw [htotals] at hfits ⊢
      rw [Totals.cancellationRate]
      split
      · exact ⟨0, -1074, rfl, by norm_num⟩
      · exact Binary64.quotient_ofNat_le_one (by omega) hevaluations hfits }

/-! ### Calls one after the other -/

/-- A call that is answered in one go. -/
def answer (x : Traffic) (c : Call) : Traffic :=
  let (t, folder, server) := x.server.answer x.folder c
  ⟨server, folder, x.tasks ++ [t]⟩

/-- Calls that are answered one after the other. -/
def answerAll (x : Traffic) (calls : List Call) : Traffic := calls.foldl answer x

/-- Tasks that were there before do not matter to the turns of a task. -/
lemma run_behind (ts : List Task) (t : Task) (s : Server) (f : Folder) (n : Nat) :
    run ⟨s, f, ts ++ [t]⟩ (.replicate n (.turn ts.length)) =
      let y := run ⟨s, f, [t]⟩ (.replicate n (.turn 0))
      ⟨y.server, y.folder, ts ++ y.tasks⟩ := by
  induction n generalizing s f t with
  | zero => rfl
  | succ n ih =>
    have hmove : move ⟨s, f, ts ++ [t]⟩ (.turn ts.length) =
        ⟨(s.turn f t).2.2, (s.turn f t).2.1, ts ++ [(s.turn f t).1]⟩ := by
      simp [move]
    rw [List.replicate_succ, List.replicate_succ, run_cons, hmove, ih, run_cons]
    rfl

/-- Calls that are answered one after the other are answered in turns. -/
theorem exists_run_eq_answerAll (x : Traffic) (calls : List Call) :
    ∃ moves, x.run moves = x.answerAll calls := by
  induction calls generalizing x with
  | nil => exact ⟨[], rfl⟩
  | cons c calls ih =>
    obtain ⟨n, hn⟩ := run_alone x.server x.folder c
    obtain ⟨moves, hmoves⟩ := ih (x.answer c)
    refine ⟨.call c :: (.replicate n (.turn x.tasks.length) ++ moves), ?_⟩
    rw [run_cons, run_append, move, run_behind, hn]
    exact hmoves

lemma countP_isEvaluation_answerAll (x : Traffic) (calls : List Call) :
    (x.answerAll calls).tasks.countP Task.isEvaluation =
      x.tasks.countP Task.isEvaluation + calls.countP Call.isEvaluate := by
  induction calls generalizing x with
  | nil => rfl
  | cons c calls ih =>
    have hc : [(x.server.answer x.folder c).1].countP Task.isEvaluation =
        [c].countP Call.isEvaluate := by
      cases c with
      | evaluate | rewrite | replace => rfl
      | reload l =>
        simp only [Server.answer]
        rcases x.server.reload l x.folder with ⟨_ | _, folder, server⟩ <;> rfl
    have hstep : x.answerAll (c :: calls) = (x.answer c).answerAll calls := rfl
    have hcalls : ([c] ++ calls).countP Call.isEvaluate =
        [c].countP Call.isEvaluate + calls.countP Call.isEvaluate := List.countP_append
    rw [hstep, ih, answer, List.countP_append, hc, add_assoc, ← hcalls]
    rfl

/-- From a fresh start the counters of a server are at every point of a run those of its calls, however
the calls come in between each other, and also if each is answered in one go. -/
theorem balanced_run (ht : s.totals = {}) (ha : s.audit = .memory []) (f : Folder) :
    (∀ moves, (run ⟨s, f, []⟩ moves).Balanced) ∧
    ∀ calls : List Call,
      (answerAll ⟨s, f, []⟩ calls).Balanced ∧
      (answerAll ⟨s, f, []⟩ calls).server.totals.evaluations = calls.countP Call.isEvaluate := by
  have hfresh : BooksAgree ⟨s, f, []⟩ := ⟨[], 0, by rw [ha]; rfl, ht, le_rfl⟩
  have hrun (moves : List Move) : (run ⟨s, f, []⟩ moves).Balanced :=
    (booksAgree_run hfresh moves).balanced
  refine ⟨hrun, fun calls => ?_⟩
  obtain ⟨moves, hmoves⟩ := exists_run_eq_answerAll ⟨s, f, []⟩ calls
  have hbalanced := hmoves ▸ hrun moves
  refine ⟨hbalanced, ?_⟩
  rw [hbalanced.evaluations, countP_isEvaluation_answerAll]
  exact Nat.zero_add _

/-- A packet and two texts, one of which is held back. -/
theorem balanced_run_of_deny :
    let steve : Actor := ⟨"steve", "world", .survival, [], none⟩
    let server : Server := {
      settings := {}
      rules := ⟨[(.chat, [{ pattern := "(" }, { pattern := "spam", cancels := true }])]⟩
      audit := .memory []
      time := "" }
    let calls : List Call :=
      [.evaluate .chat steve "hello", .rewrite steve (.text "spam"), .evaluate .chat steve "spam"]
    let x := answerAll ⟨server, {}, []⟩ calls
    x.Balanced ∧ x.server.totals = ⟨2, 1, 1, 0, 2⟩ := by
  intro steve server calls x
  have hx : x.server.totals = ⟨2, 1, 1, 0, 2⟩ := by decide +kernel
  exact ⟨((balanced_run (s := server) rfl rfl {}).2 calls).1, hx⟩

end Traffic

end Moderation.Engine
