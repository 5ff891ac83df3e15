import Mathlib.Algebra.BigOperators.Group.List.Basic
import Mathlib.Tactic.Abel
import Moderation.Engine.Evaluation
import Moderation.Packet.Rewrite
import Moderation.Proofs.Engine.Faults
import Moderation.Proofs.Engine.Steps

/-!
What the effects of work count. Every pattern that is given up is counted and recorded; beside that, a
rule that matches is counted once, and so is an evaluation that is cancelled.
-/
namespace Moderation

attribute [ext] Totals

namespace Totals

instance : Zero Totals := ⟨{}⟩

/-- The totals of two parts of a run make the totals of the run. -/
instance : Add Totals where
  add t u := ⟨t.evaluations + u.evaluations, t.ruleMatches + u.ruleMatches,
    t.cancellations + u.cancellations, t.packetCancellations + u.packetCancellations,
    t.regexFaults + u.regexFaults⟩

instance : AddCommMonoid Totals where
  add_assoc _ _ _ := by ext <;> exact Nat.add_assoc ..
  zero_add _ := by ext <;> exact Nat.zero_add _
  add_zero _ := rfl
  add_comm _ _ := by ext <;> exact Nat.add_comm ..
  nsmul := nsmulRec

theorem add_def (t u : Totals) :
    t + u = ⟨t.evaluations + u.evaluations, t.ruleMatches + u.ruleMatches,
      t.cancellations + u.cancellations, t.packetCancellations + u.packetCancellations,
      t.regexFaults + u.regexFaults⟩ := rfl

/-- Totals with nothing but matches. -/
def matched (n : Nat) : Totals := { ruleMatches := n }

/-- Totals with nothing but patterns that were given up. -/
def faulted (n : Nat) : Totals := { regexFaults := n }

lemma matched_add (m n : Nat) : matched (m + n) = matched m + matched n := rfl

lemma faulted_add (m n : Nat) : faulted (m + n) = faulted m + faulted n := rfl

end Totals

/-- What an effect adds to the totals. -/
def Effect.share : Effect → Totals
  | .count c => ({} : Totals).add c
  | _ => 0

def Effect.entry? : Effect → Option AuditEntry
  | .audit e => some e
  | _ => none

/-- Whether an effect neither is counted nor records that a pattern was given up. -/
def Effect.isQuiet : Effect → Bool
  | .count _ => false
  | .audit e => !e.kind.isFault
  | _ => true

namespace Engine

/-- What effects add to the totals. -/
def tally (es : List Effect) : Totals := (es.map Effect.share).sum

/-- What effects put on record. -/
def recorded (es : List Effect) : List AuditEntry := es.filterMap Effect.entry?

/-- The number of entries about patterns that were given up. -/
def faults (entries : List AuditEntry) : Nat := entries.countP (·.kind.isFault)

/-- Effects that add given totals, and beside them a fault for each entry about one. -/
def Counts (es : List Effect) (t : Totals) : Prop := tally es = t + .faulted (faults (recorded es))

section Counts
variable {es fs : List Effect} {t u : Totals}

@[simp] theorem tally_nil : tally [] = 0 := rfl

@[simp] theorem tally_cons (e : Effect) (es : List Effect) : tally (e :: es) = e.share + tally es := by
  simp [tally]

@[simp] theorem recorded_nil : recorded [] = [] := rfl

@[simp] theorem tally_append (es fs : List Effect) : tally (es ++ fs) = tally es + tally fs := by
  simp [tally]

@[simp] theorem recorded_append (es fs : List Effect) :
    recorded (es ++ fs) = recorded es ++ recorded fs := List.filterMap_append

@[simp] theorem faults_append (l m : List AuditEntry) : faults (l ++ m) = faults l + faults m :=
  List.countP_append

lemma Counts.append (he : Counts es t) (hf : Counts fs u) : Counts (es ++ fs) (t + u) := by
  unfold Counts at *
  rw [tally_append, recorded_append, faults_append, Totals.faulted_add, he, hf]
  abel

lemma counts_of_quiet (h : ∀ e ∈ es, e.isQuiet = true) : Counts es 0 := by
  induction es with
  | nil => rfl
  | cons e es ih =>
    obtain ⟨he, hes⟩ := List.forall_mem_cons.1 h
    have hone : Counts [e] 0 := by
      cases e with
      | count c => simp [Effect.isQuiet] at he
      | audit entry =>
        have hfault : entry.kind.isFault = false := by simpa [Effect.isQuiet] using he
        simp [Counts, recorded, faults, Effect.entry?, Effect.share, hfault]
        rfl
      | act | later | log | crash => rfl
    simpa using hone.append (ih hes)

end Counts

/-! ### Work that counts nothing but faults -/

namespace Work
variable {α β : Type} {w v : Work α} {f : α → Work β}

/-- Work that counts nothing but patterns that are given up. -/
structure CountsFaults (w : Work α) : Prop where
  counts : ∀ state, Counts (w state).effects 0

namespace CountsFaults

theorem pure (a : α) : CountsFaults (Pure.pure a) := ⟨fun _ => rfl⟩

theorem emitAll {es : List Effect} (h : ∀ e ∈ es, e.isQuiet = true) : CountsFaults (.emitAll es) :=
  ⟨fun _ => counts_of_quiet h⟩

theorem say (level : Level) (text : String) (fields : List (String × String)) :
    CountsFaults (.say level text fields) := ⟨fun _ => rfl⟩

theorem draw : CountsFaults .draw := ⟨fun _ => rfl⟩

theorem bind (hw : w.CountsFaults) (hf : ∀ a, (f a).CountsFaults) : (w >>= f).CountsFaults :=
  ⟨fun state => (hw.counts state).append ((hf _).counts _)⟩

theorem ite {p : Prop} [Decidable p] (hw : w.CountsFaults) (hv : v.CountsFaults) :
    (if p then w else v).CountsFaults := by
  split
  · exact hw
  · exact hv

end CountsFaults

end Work

open Work (CountsFaults)

namespace Budget
variable {b : Budget}

lemma countsFaults_report (pattern text : String) (failure : Failure) :
    (b.report pattern text failure).CountsFaults := by
  refine ⟨fun state => ?_⟩
  obtain fault | _ := failure
  · cases fault <;> rfl
  · rfl

theorem inherited_countsFaults (b : Budget) : Inherited b CountsFaults where
  pure := .pure
  bind := .bind
  say := .say
  compile source := ⟨fun state => by rw [effects_compile]; rfl⟩
  report := countsFaults_report

end Budget

/-! ### Rules -/

section Quiet
variable {actor : Actor} {text : String}

lemma quiet_tellWhen (now : Bool) (player message : String) :
    (tellWhen now player message).isQuiet = true := by
  cases now <;> rfl

lemma quiet_customCommand (command : String) :
    ∀ e ∈ customCommand actor text command, e.isQuiet = true := by
  unfold customCommand
  split
  · simp
  · simp [commandLater, Effect.isQuiet]

lemma quiet_closingEffects (r : Rule) : ∀ e ∈ r.closingEffects actor text, e.isQuiet = true := by
  simp only [Rule.closingEffects, List.mem_append, List.mem_flatMap, List.mem_map]
  rintro e (((⟨command, -, h⟩ | ⟨warning, -, rfl⟩) | ⟨amount, -, rfl⟩) | ⟨message, -, rfl⟩)
  · exact quiet_customCommand _ e h
  · exact quiet_tellWhen ..
  · rfl
  · rfl

end Quiet

namespace Context
variable (ctx : Context) (kind : EventKind) (actor : Actor)

lemma quiet_matchLines (headline : String) (r : Rule) (text : String) :
    ∀ e ∈ ctx.matchLines headline r text, e.isQuiet = true := by
  simp [matchLines, line, Effect.isQuiet]

lemma quiet_handlerEffects (h : Handler) (values : Placeholders) (p : Pass) :
    ∀ e ∈ ctx.handlerEffects h kind values actor p, e.isQuiet = true := by
  have hwarning : ∀ e ∈ h.warningEffects values actor p.scope, e.isQuiet = true := by
    unfold Handler.warningEffects
    split
    · split <;> simp [quiet_tellWhen]
    · simp
  have hbroadcast : ∀ e ∈ h.broadcastEffects values p.scope, e.isQuiet = true := by
    unfold Handler.broadcastEffects
    split
    · split <;> simp [Effect.isQuiet]
    · simp
  have halert : ∀ e ∈ h.alertEffects values (signPrefix kind actor) ctx.holders,
      e.isQuiet = true := by
    unfold Handler.alertEffects
    split <;> simp [Effect.isQuiet]
  have hrecord : ∀ e ∈ h.recordEffects values actor p.text, e.isQuiet = true := by
    simp only [Handler.recordEffects, List.mem_append, List.mem_flatMap, List.mem_map]
    rintro e (((⟨message, -, rfl⟩ | ⟨command, -, hc⟩) | ⟨target, -, rfl⟩) | ⟨amount, -, rfl⟩)
    · rfl
    · exact quiet_customCommand _ e hc
    · rfl
    · rfl
  simp only [handlerEffects, List.forall_mem_append]
  exact ⟨⟨⟨hwarning, hbroadcast⟩, halert⟩, hrecord⟩

theorem countsFaults_ruleMatches (pace : Pace) (r : Rule) (text : String) :
    (ctx.ruleMatches pace r text).CountsFaults :=
  ctx.budget.inherited_countsFaults.ruleMatches pace r text

lemma countsFaults_handled (pace : Pace) (r : Rule) (p : Pass) :
    (ctx.handled pace r kind actor p).CountsFaults := by
  unfold handled
  cases r.handler with
  | none => exact .pure _
  | some h =>
    refine .ite (.pure _) (.bind (.emitAll (ctx.quiet_handlerEffects kind actor h _ p)) fun _ => ?_)
    refine .ite (.pure _) (.bind ?_ fun _ => .pure _)
    exact ctx.budget.inherited_countsFaults.handlerText ..

lemma countsFaults_replaced (chance : Chance) (r : Rule) (text : String) :
    (ctx.replaced chance r actor text).CountsFaults :=
  ctx.budget.inherited_countsFaults.replaced chance r actor text

lemma counts_openingEffects (r : Rule) (text : String) :
    Counts (ctx.openingEffects r kind actor text) (.matched 1) := by
  have hmatch : Counts [.count (.ruleMatch kind.label)] (.matched 1) := rfl
  have hviolation : ∀ e ∈ ctx.violationEffects r kind actor text, e.isQuiet = true := by
    unfold violationEffects
    split
    · simp
    · split <;> simp [Effect.isQuiet, AuditKind.isFault]
  have hnotice : ∀ e ∈ ctx.noticeEffects r actor text, e.isQuiet = true := by
    unfold noticeEffects
    split <;> simp [tellLater, Effect.isQuiet]
  have hlines := ctx.quiet_matchLines ("*--------- Rule match on " ++ actor.name ++
    " --------- ID " ++ r.name) r text
  have h := ((hmatch.append (counts_of_quiet hlines)).append (counts_of_quiet hviolation)).append
    (counts_of_quiet hnotice)
  simp only [add_zero] at h
  exact h

/-- A rule at work counts one match. -/
theorem counts_fire (chance : Chance) (r : Rule) (p : Pass) (state : State) :
    Counts (ctx.fire chance r kind actor p state).effects (.matched 1) := by
  have hrest (q : Pass) : CountsFaults (if q.cancelled then pure q else do
      let text ← ctx.replaced chance r actor (r.rewritten chance.rolls actor q.text)
      .emitAll (r.closingEffects actor text)
      return { q with text, cancelled := r.cancels }) :=
    .ite (.pure _) ((ctx.countsFaults_replaced ..).bind fun text =>
      .bind (.emitAll (quiet_closingEffects r)) fun _ => .pure _)
  have h := (ctx.counts_openingEffects kind actor r p.text).append
    (((ctx.countsFaults_handled kind actor chance.pace r p).bind hrest).counts state)
  simp only [add_zero] at h
  exact h

/-- A rule that is tried counts its match, and it does not hold a text back without one. -/
theorem counts_tryRule (r : Rule) (p : Pass) (state : State) :
    ∃ m, Counts (ctx.tryRule kind actor r p state).effects (.matched m) ∧
      (ctx.tryRule kind actor r p state).value.cancelled.toNat ≤ p.cancelled.toNat + m := by
  cases hs : r.skips kind actor with
  | true =>
    rw [tryRule_of_skips hs]
    exact ⟨0, rfl, le_rfl⟩
  | false =>
    have hmatches := (ctx.countsFaults_ruleMatches state.chance.pace r p.text).counts state.drawn
    cases hm : (ctx.ruleMatches state.chance.pace r p.text state.drawn).value with
    | false =>
      rw [tryRule_of_no_match hs hm]
      exact ⟨0, hmatches, le_rfl⟩
    | true =>
      rw [tryRule_of_match hs hm]
      refine ⟨1, ?_, (Bool.toNat_le _).trans (Nat.le_add_left _ _)⟩
      simpa only [zero_add] using hmatches.append (ctx.counts_fire kind actor state.chance r p _)

/-! ### Packets -/

lemma countsFaults_rewriteText (pace : Pace) (r : Rule) (p : PacketRule) (text : String) :
    (ctx.rewriteText pace r p actor text).CountsFaults := by
  unfold rewriteText
  refine .ite (.pure _) ?_
  cases p.rewriteIn.lookup actor.world with
  | some rewrite => exact .pure _
  | none =>
    cases p.rewrite with
    | some rewrite => exact .pure _
    | none =>
      cases p.replace with
      | none => exact .pure _
      | some replacement => exact (ctx.budget.inherited_countsFaults.replace ..).bind fun _ => .pure _

lemma countsFaults_firePacket (pace : Pace) (r : Rule) (p : PacketRule) (text : String) :
    (ctx.firePacket pace r p actor text).CountsFaults := by
  have hquiet {es : List Effect} (h : ∀ e ∈ es, e.isQuiet = true) :
      ∀ e ∈ (if p.quiet then [] else es), e.isQuiet = true := by
    split
    · simp
    · exact h
  refine .bind (.emitAll (hquiet (ctx.quiet_matchLines _ r text))) fun _ => ?_
  refine (ctx.countsFaults_rewriteText ..).bind fun rewritten => ?_
  cases rewritten with
  | none => exact .bind (.emitAll (hquiet (by simp [line, Effect.isQuiet]))) fun _ => .pure _
  | some rewritten =>
    refine .bind (.emitAll (hquiet ?_)) fun _ => .pure _
    split <;> simp [line, Effect.isQuiet]

lemma countsFaults_tryPacketRules (rs : List Rule) (text : String) :
    (ctx.tryPacketRules actor rs text).CountsFaults := by
  induction rs generalizing text with
  | nil => exact .pure _
  | cons r rs ih =>
    refine .bind ?_ fun rewritten => ?_
    · unfold tryPacketRule
      cases r.packet with
      | none => exact .pure _
      | some p =>
        refine .bind .draw fun chance => ?_
        refine (ctx.countsFaults_ruleMatches ..).bind fun found => .ite ?_ (.pure _)
        exact ctx.countsFaults_firePacket ..
    · cases rewritten with
      | none => exact .pure _
      | some text => exact ih text

/-- What the rules make of an outgoing text counts nothing but patterns that are given up. -/
theorem countsFaults_rewriteLeaf (rules : RuleSet) (text : String) :
    (ctx.rewriteLeaf rules actor text).CountsFaults :=
  .ite (.pure _) (ctx.countsFaults_tryPacketRules ..)

end Context

end Engine

end Moderation
