import Mathlib.Data.List.Basic
import Moderation.Proofs.Engine.Cache

/-!
Patterns that are given up while a rule is tested. Each is counted and recorded, and nothing else is seen
of the test. A rule whose own pattern is given up does not match; without the pattern of one of its
preparations it goes on as the rule that does not prepare the text in that way.
-/
namespace Moderation
open Engine

/-- What a rule may do to a text before it is matched. -/
inductive Preparation
  | strip
  | replace
  | ignore
deriving DecidableEq, Repr

/-- A rule without one of its preparations. -/
def Rule.without (r : Rule) : Preparation → Rule
  | .strip => { r with stripBefore := none }
  | .replace => { r with replaceBefore := none }
  | .ignore => { r with ignoredMessage := none }

@[simp] theorem Rule.skips_without (r : Rule) (part : Preparation) (kind : EventKind)
    (actor : Actor) : (r.without part).skips kind actor = r.skips kind actor := by
  cases part <;> rfl

namespace Engine

/-- A pattern that is given up on a text. -/
structure GivenUp where
  pattern : String
  text : String
  failure : Failure
deriving DecidableEq, Repr

/-- What is seen of a pattern that is given up: a fault is counted and recorded, and a crash is the end. -/
def GivenUp.report (g : GivenUp) : List Effect :=
  match g.failure with
  | .fault fault => [.count (.regexFault fault), .audit (Budget.auditEntry g.pattern g.text fault)]
  | .crash => [.crash]

namespace Budget
variable {b : Budget}

/-- What is seen of an answer, or of the failure that counts as the answer `otherwise`. -/
def answered {α : Type} (pattern text : String) (otherwise : α) :
    Except Failure α → α × List Effect
  | .ok a => (a, [])
  | .error failure => (otherwise, GivenUp.report ⟨pattern, text, failure⟩)

@[simp] theorem answered_ok {α : Type} (pattern text : String) (otherwise a : α) :
    answered pattern text otherwise (.ok a) = (a, []) := rfl

@[simp] theorem answered_error {α : Type} (pattern text : String) (otherwise : α)
    (failure : Failure) : answered pattern text otherwise (.error failure) =
      (otherwise, GivenUp.report ⟨pattern, text, failure⟩) := rfl

@[simp] theorem effects_run {α : Type} (looks : Looks) (source : String)
    (use : Regex.Compiled → Regex.Use α) (state : State) :
    (b.run looks source use state).effects = [] := by
  unfold run
  rw [Work.bind_apply, effects_compile]
  cases (b.compile source state).value <;> rfl

@[simp] theorem effects_tryMatch (looks : Looks) (pattern text : String) (state : State) :
    (b.tryMatch looks pattern text state).effects = [] := effects_run ..

@[simp] theorem effects_tryReplace (looks : Looks) (mode : Mode)
    (pattern text replacement : String) (state : State) :
    (b.tryReplace looks mode pattern text replacement state).effects = [] := effects_run ..

/-- A pattern that does not compile is malformed. -/
theorem run_of_not_compiles {α : Type} {source : String}
    (h : Regex.compile? b.library b.backtracks source.toList = none) (looks : Looks)
    (use : Regex.Compiled → Regex.Use α) :
    (b.run looks source use {}).value = .error (.fault .malformed) := by
  simp [run, compile, h]

/-- Of work that may have failed, nothing is seen but the report of the failure. -/
lemma seen_orReport {α : Type} {w : Work (Except Failure α)} (hw : (w {}).effects = [])
    (pattern text : String) (otherwise : α) :
    (b.orReport pattern text otherwise w).seen {} =
      answered pattern text otherwise (w {}).value := by
  unfold Work.seen orReport
  rw [Work.bind_apply, hw]
  cases (w {}).value with
  | ok a => rfl
  | error failure => cases failure <;> rfl

theorem seen_isMatch (looks : Looks) (pattern text : String) :
    (b.isMatch looks pattern text).seen {} =
      answered pattern text false (b.tryMatch looks pattern text {}).value :=
  seen_orReport (effects_tryMatch ..) ..

theorem seen_replace (looks : Looks) (mode : Mode) (pattern text replacement : String) :
    (b.replace looks mode pattern text replacement).seen {} =
      answered pattern text text (b.tryReplace looks mode pattern text replacement {}).value :=
  seen_orReport (effects_tryReplace ..) ..

end Budget

namespace Context
variable (ctx : Context) (pace : Pace) (r : Rule) (text : String)

/-! ### The steps of a test -/

/-- A text with what a rule strips before it is matched. -/
def strippedBefore : Work String :=
  match r.stripBefore with
  | some pattern => ctx.budget.replace pace.strip .exact pattern text ""
  | none => pure text

/-- A text with what a rule replaces before it is matched. -/
def replacedBefore : Work String :=
  match r.replaceBefore with
  | some (pattern, replacement) =>
    ctx.budget.replace pace.replaceBefore .exact pattern text replacement
  | none => pure text

/-- The text that a rule replaces in. -/
def stripped : String := ((ctx.strippedBefore pace r text).seen {}).1

/-- The text in which a rule looks for what it ignores. -/
def prepared : String := ((ctx.replacedBefore pace r (ctx.stripped pace r text)).seen {}).1

/-- The text that the pattern of a rule is matched against. -/
def searched : String := ((ctx.eraseIgnored pace r (ctx.prepared pace r text)).seen {}).1

/-- While a rule is tested on a text, the pattern of a preparation or its own one is given up. -/
inductive GivesUp : Option Preparation → GivenUp → Prop
  | strip {pattern : String} {failure : Failure} (hr : r.stripBefore = some pattern)
      (h : (ctx.budget.tryReplace pace.strip .exact pattern text "" {}).value = .error failure) :
      GivesUp (some .strip) ⟨pattern, text, failure⟩
  | replace {pattern replacement : String} {failure : Failure}
      (hr : r.replaceBefore = some (pattern, replacement))
      (h : (ctx.budget.tryReplace pace.replaceBefore .exact pattern (ctx.stripped pace r text)
        replacement {}).value = .error failure) :
      GivesUp (some .replace) ⟨pattern, ctx.stripped pace r text, failure⟩
  | ignore {pattern : String} {failure : Failure} (hr : r.ignoredMessage = some pattern)
      (h : (ctx.budget.tryMatch pace.ignore pattern (ctx.prepared pace r text) {}).value =
        .error failure) :
      GivesUp (some .ignore) ⟨pattern, ctx.prepared pace r text, failure⟩
  | erase {pattern : String} {failure : Failure} (hr : r.ignoredMessage = some pattern)
      (hm : (ctx.budget.tryMatch pace.ignore pattern (ctx.prepared pace r text) {}).value = .ok true)
      (h : (ctx.budget.tryReplace pace.erase .normalized pattern (ctx.prepared pace r text) ""
        {}).value = .error failure) :
      GivesUp (some .ignore) ⟨pattern, ctx.prepared pace r text, failure⟩
  | search {failure : Failure}
      (h : (ctx.budget.tryMatch pace.search r.pattern (ctx.searched pace r text) {}).value =
        .error failure) :
      GivesUp none ⟨r.pattern, ctx.searched pace r text, failure⟩

/-- Effects that are nothing but reports of patterns that a rule gives up while it is tested. -/
def Reports (es : List Effect) : Prop :=
  ∃ gs : List GivenUp, (∀ g ∈ gs, ∃ part, ctx.GivesUp pace r text part g) ∧ es = gs.flatMap (·.report)

variable {ctx pace r text}

@[simp] theorem reports_nil : ctx.Reports pace r text [] := ⟨[], by simp, rfl⟩

theorem Reports.append {es fs : List Effect} :
    ctx.Reports pace r text es → ctx.Reports pace r text fs → ctx.Reports pace r text (es ++ fs) := by
  rintro ⟨gs, hgs, rfl⟩ ⟨hs, hhs, rfl⟩
  exact ⟨gs ++ hs, List.forall_mem_append.2 ⟨hgs, hhs⟩, List.flatMap_append.symm⟩

theorem GivesUp.reports {part : Option Preparation} {g : GivenUp}
    (h : ctx.GivesUp pace r text part g) : ctx.Reports pace r text g.report :=
  ⟨[g], by simpa using ⟨part, h⟩, by simp⟩

lemma ignoresCache_strippedBefore : (ctx.strippedBefore pace r text).IgnoresCache ctx.budget := by
  unfold strippedBefore
  cases r.stripBefore with
  | none => exact .pure _
  | some pattern => exact Budget.ignoresCache_replace ..

lemma ignoresCache_replacedBefore : (ctx.replacedBefore pace r text).IgnoresCache ctx.budget := by
  unfold replacedBefore
  cases r.replaceBefore with
  | none => exact .pure _
  | some prepared => exact Budget.ignoresCache_replace ..

lemma seen_eraseIgnored {pattern : String} (hr : r.ignoredMessage = some pattern) :
    (ctx.eraseIgnored pace r text).seen {} =
      chain ((ctx.budget.isMatch pace.ignore pattern text).seen {}) fun found =>
        if found then (ctx.budget.replace pace.erase .normalized pattern text "").seen {} else (text, []) := by
  have hsay : (ctx.budget.replace pace.erase .normalized pattern text "").IgnoresCache ctx.budget :=
    Budget.ignoresCache_replace ..
  simp only [eraseIgnored, hr]
  rw [Work.IgnoresCache.seen_bind (Budget.ignoresCache_isMatch ..)
    fun found => .ite (.bind (.say ..) fun _ => hsay) (.pure _)]
  simp only [apply_ite (Work.seen · {}), Work.IgnoresCache.seen_bind (.say ..) fun _ => hsay,
    Work.seen_say, chain_nil, Work.seen_pure]

lemma preprocess_eq :
    ctx.preprocess pace r text = ctx.strippedBefore pace r text >>= ctx.replacedBefore pace r := by
  simp only [preprocess, strippedBefore]
  cases r.stripBefore <;> rfl

/-- The steps of a test, one after the other. -/
theorem seen_ruleMatches :
    (ctx.ruleMatches pace r text).seen {} =
      chain ((ctx.strippedBefore pace r text).seen {}) fun text =>
        chain ((ctx.replacedBefore pace r text).seen {}) fun text =>
          chain ((ctx.eraseIgnored pace r text).seen {}) fun text =>
            (ctx.budget.isMatch pace.search r.pattern text).seen {} := by
  have hmatch (text : String) := Budget.ignoresCache_isMatch (b := ctx.budget) pace.search r.pattern text
  have herase (text : String) := (ignoresCache_eraseIgnored ctx pace r text).bind hmatch
  have hreplace (text : String) := (@ignoresCache_replacedBefore ctx pace r text).bind herase
  have hsteps : ctx.ruleMatches pace r text = ctx.strippedBefore pace r text >>= fun text =>
      ctx.replacedBefore pace r text >>= fun text =>
        ctx.eraseIgnored pace r text >>= fun text => ctx.budget.isMatch pace.search r.pattern text := by
    rw [← bind_assoc, ← preprocess_eq, ruleMatches]
  rw [hsteps, ignoresCache_strippedBefore.seen_bind hreplace]
  simp only [ignoresCache_replacedBefore.seen_bind herase,
    (ignoresCache_eraseIgnored ctx pace r _).seen_bind hmatch]

/-! ### What is given up in a step -/

lemma reports_answered {α : Type} {pattern subject : String} {result : Except Failure α}
    (h : ∀ failure, result = .error failure →
      ∃ part, ctx.GivesUp pace r text part ⟨pattern, subject, failure⟩)
    (otherwise : α) : ctx.Reports pace r text (Budget.answered pattern subject otherwise result).2 := by
  cases result with
  | ok a => exact reports_nil
  | error failure =>
    obtain ⟨part, hg⟩ := h failure rfl
    exact hg.reports

lemma seen_strippedBefore : ∃ es, ctx.Reports pace r text es ∧
    (ctx.strippedBefore pace r text).seen {} = (ctx.stripped pace r text, es) := by
  refine ⟨_, ?_, rfl⟩
  change ctx.Reports pace r text ((ctx.strippedBefore pace r text).seen {}).2
  unfold strippedBefore
  cases hr : r.stripBefore with
  | none => exact reports_nil
  | some pattern =>
    dsimp only
    rw [Budget.seen_replace]
    exact reports_answered (fun failure h => ⟨_, .strip hr h⟩) _

lemma seen_replacedBefore : ∃ es, ctx.Reports pace r text es ∧
    (ctx.replacedBefore pace r (ctx.stripped pace r text)).seen {} = (ctx.prepared pace r text, es) := by
  refine ⟨_, ?_, rfl⟩
  change ctx.Reports pace r text ((ctx.replacedBefore pace r (ctx.stripped pace r text)).seen {}).2
  unfold replacedBefore
  cases hr : r.replaceBefore with
  | none => exact reports_nil
  | some pair =>
    dsimp only
    rw [Budget.seen_replace]
    exact reports_answered (fun failure h => ⟨_, .replace hr h⟩) _

lemma seen_erased : ∃ es, ctx.Reports pace r text es ∧
    (ctx.eraseIgnored pace r (ctx.prepared pace r text)).seen {} = (ctx.searched pace r text, es) := by
  refine ⟨_, ?_, rfl⟩
  change ctx.Reports pace r text ((ctx.eraseIgnored pace r (ctx.prepared pace r text)).seen {}).2
  cases hr : r.ignoredMessage with
  | none =>
    simp only [eraseIgnored, hr, Work.seen_pure]
    exact reports_nil
  | some pattern =>
    rw [seen_eraseIgnored hr, Budget.seen_isMatch, Budget.seen_replace]
    cases hm : (ctx.budget.tryMatch pace.ignore pattern (ctx.prepared pace r text) {}).value with
    | error failure => simpa [chain] using (GivesUp.ignore hr hm).reports
    | ok found =>
      rw [Budget.answered_ok, chain_nil]
      cases found with
      | false => exact reports_nil
      | true =>
        rw [if_pos rfl]
        exact reports_answered (fun failure h => ⟨_, .erase hr hm h⟩) _

/-- A rule whose own pattern is given up does not match. -/
theorem ruleMatches_of_givesUp {g : GivenUp} (h : ctx.GivesUp pace r text none g) :
    ∃ es, ctx.Reports pace r text es ∧ (ctx.ruleMatches pace r text).seen {} = (false, es ++ g.report) := by
  obtain ⟨es₁, he₁, h₁⟩ := @seen_strippedBefore ctx pace r text
  obtain ⟨es₂, he₂, h₂⟩ := @seen_replacedBefore ctx pace r text
  obtain ⟨es₃, he₃, h₃⟩ := @seen_erased ctx pace r text
  cases h with
  | search h =>
    refine ⟨_, (he₁.append he₂).append he₃, ?_⟩
    simp only [seen_ruleMatches, chain, h₁, h₂, h₃, Budget.seen_isMatch, h, Budget.answered_error,
      List.append_assoc]

/-! ### A rule without a preparation -/

/-- In the second place the same is seen as in the first, and some effects with it, which come after
nothing but reports. -/
def Inserts {α : Type} (ctx : Context) (pace : Pace) (r : Rule) (text : String) (es : List Effect)
    (a b : α × List Effect) : Prop :=
  ∃ before after, ctx.Reports pace r text before ∧ a = (b.1, before ++ after) ∧
    b.2 = before ++ es ++ after

section Inserts
variable {α β : Type} {es : List Effect}

lemma inserts_chain (a : α) (f : α → β × List Effect) :
    ctx.Inserts pace r text es (chain (a, []) f) (chain (a, es) f) :=
  ⟨[], (f a).2, reports_nil, rfl, rfl⟩

lemma Inserts.after_reports {before : List Effect} {a : α} {f g : α → β × List Effect}
    (hb : ctx.Reports pace r text before) (h : ctx.Inserts pace r text es (f a) (g a)) :
    ctx.Inserts pace r text es (chain (a, before) f) (chain (a, before) g) := by
  obtain ⟨before', after, hb', hf, hg⟩ := h
  exact ⟨before ++ before', after, hb.append hb', by simp [chain, hf], by simp [chain, hg]⟩

lemma Inserts.before_rest {a b : α × List Effect} (h : ctx.Inserts pace r text es a b)
    (f : α → β × List Effect) : ctx.Inserts pace r text es (chain a f) (chain b f) := by
  obtain ⟨before, after, hb, ha, hes⟩ := h
  exact ⟨before, after ++ (f b.1).2, hb, by simp [chain, ha], by simp [chain, hes]⟩

end Inserts

/-! A preparation whose pattern is given up leaves the text as it is. -/

lemma strippedBefore_of_givesUp {g : GivenUp} (h : ctx.GivesUp pace r text (some .strip) g) :
    (ctx.strippedBefore pace r text).seen {} = (text, g.report) := by
  cases h with
  | strip hr h => simp only [strippedBefore, hr, Budget.seen_replace, h, Budget.answered_error]

lemma replacedBefore_of_givesUp {g : GivenUp} (h : ctx.GivesUp pace r text (some .replace) g) :
    (ctx.replacedBefore pace r (ctx.stripped pace r text)).seen {} = (ctx.stripped pace r text, g.report) := by
  cases h with
  | replace hr h => simp only [replacedBefore, hr, Budget.seen_replace, h, Budget.answered_error]

lemma eraseIgnored_of_givesUp {g : GivenUp} (h : ctx.GivesUp pace r text (some .ignore) g) :
    (ctx.eraseIgnored pace r (ctx.prepared pace r text)).seen {} = (ctx.prepared pace r text, g.report) := by
  cases h with
  | ignore hr h =>
    simp [seen_eraseIgnored hr, Budget.seen_isMatch, h, chain]
  | erase hr hm h =>
    simp [seen_eraseIgnored hr, Budget.seen_isMatch, hm, Budget.seen_replace, h]

/-- A rule that gives up the pattern of a preparation matches if it does so without the preparation. -/
theorem ruleMatches_of_preparation {part : Preparation} {g : GivenUp}
    (h : ctx.GivesUp pace r text (some part) g) :
    ctx.Inserts pace r text g.report ((ctx.ruleMatches pace (r.without part) text).seen {})
      ((ctx.ruleMatches pace r text).seen {}) := by
  obtain ⟨es₁, he₁, h₁⟩ := @seen_strippedBefore ctx pace r text
  obtain ⟨es₂, he₂, h₂⟩ := @seen_replacedBefore ctx pace r text
  rw [seen_ruleMatches, seen_ruleMatches]
  -- the steps before and after the preparation are those of the rule without it
  cases part with
  | strip =>
    rw [strippedBefore_of_givesUp h]
    exact inserts_chain ..
  | replace =>
    have hstrip : ctx.strippedBefore pace (r.without .replace) text = ctx.strippedBefore pace r text := rfl
    rw [hstrip, h₁]
    refine .after_reports he₁ ?_
    rw [replacedBefore_of_givesUp h]
    exact inserts_chain ..
  | ignore =>
    have hstrip : ctx.strippedBefore pace (r.without .ignore) text = ctx.strippedBefore pace r text := rfl
    have hreplace (text : String) :
        ctx.replacedBefore pace (r.without .ignore) text = ctx.replacedBefore pace r text := rfl
    rw [hstrip, h₁]
    refine .after_reports he₁ ?_
    rw [hreplace, h₂]
    refine .after_reports he₂ ?_
    rw [eraseIgnored_of_givesUp h]
    exact inserts_chain ..

/-! ### A rule that is tried -/

variable {chance : Chance} {kind : EventKind} {actor : Actor} {p : Pass} {state : State}

/-- A rule that is tried is tested, and it fires if it matches. -/
theorem seen_tryRule (hc : state.compiled.Sound ctx.budget) (hs : r.skips kind actor = false) :
    (ctx.tryRule kind actor r p).seen state =
      chain ((ctx.ruleMatches state.chance.pace r p.text).seen {}) fun found =>
        if found then (ctx.fire state.chance r kind actor p).seen {} else (p, []) := by
  have htested : ((do
      if ← ctx.ruleMatches state.chance.pace r p.text then ctx.fire state.chance r kind actor p
      else return p) : Work Pass).IgnoresCache ctx.budget :=
    (ignoresCache_ruleMatches ..).bind fun found => .ite (ignoresCache_fire ..) (.pure _)
  have hdrawn : (ctx.tryRule kind actor r p).seen state = ((do
      if ← ctx.ruleMatches state.chance.pace r p.text then ctx.fire state.chance r kind actor p
      else return p) : Work Pass).seen state.drawn := by
    simp [tryRule, hs, Work.seen]
  have hfresh : state.drawn.compiled.Alike ctx.budget ({} : State).compiled :=
    .inr ⟨hc, Cache.sound_nil _⟩
  rw [hdrawn, htested.seen_eq hfresh,
    (ignoresCache_ruleMatches ..).seen_bind fun found => .ite (ignoresCache_fire ..) (.pure _)]
  simp only [apply_ite (Work.seen · {}), Work.seen_pure]

@[simp] lemma visible_matchLines (headline : String) (r : Rule) (text : String) :
    visible (ctx.matchLines headline r text) = [] := rfl

lemma visible_openingEffects_without (part : Preparation) :
    visible (ctx.openingEffects (r.without part) kind actor text) =
      visible (ctx.openingEffects r kind actor text) := by
  simp only [openingEffects, visible_append, visible_matchLines]
  cases part <;> rfl

/-- A rule that fires does what it does without a preparation. -/
theorem seen_fire_without (part : Preparation) :
    (ctx.fire chance (r.without part) kind actor p).seen {} =
      (ctx.fire chance r kind actor p).seen {} := by
  simp only [fire, Work.seen_emitAll_bind, visible_openingEffects_without]
  cases part <;> rfl

/-- A rule whose own pattern is given up leaves the text alone and does nothing, and a rule that gives
up the pattern of a preparation does what it does without the preparation. What was given up is
reported, and nothing else is seen of the test. -/
theorem tryRule_of_givesUp (hc : state.compiled.Sound ctx.budget) (hs : r.skips kind actor = false) :
    let pace := state.chance.pace
    let tried (r : Rule) := (ctx.tryRule kind actor r p).seen state
    (∀ g, ctx.GivesUp pace r p.text none g →
      ∃ before, ctx.Reports pace r p.text before ∧ tried r = (p, before ++ g.report)) ∧
    ∀ part g, ctx.GivesUp pace r p.text (some part) g →
      ∃ q before after, ctx.Reports pace r p.text before ∧
        tried (r.without part) = (q, before ++ after) ∧
        tried r = (q, before ++ g.report ++ after) := by
  intro pace tried
  refine ⟨fun g hg => ?_, fun part g hg => ?_⟩
  · obtain ⟨before, hb, hmatches⟩ := ruleMatches_of_givesUp hg
    exact ⟨before, hb, by simp [tried, seen_tryRule hc hs, hmatches, chain, pace]⟩
  · have hs' : (r.without part).skips kind actor = false := by rw [Rule.skips_without, hs]
    obtain ⟨before, after, hb, hwithout, hgiven⟩ := (ruleMatches_of_preparation hg).before_rest
      fun found => if found then (ctx.fire state.chance r kind actor p).seen {} else (p, [])
    simp only [tried, seen_tryRule hc hs, seen_tryRule hc hs', seen_fire_without]
    exact ⟨_, before, after, hb, hwithout, Prod.ext rfl hgiven⟩

/-- A preparation that is malformed or out of time does not keep a rule from cancelling. -/
theorem cancels_with_givenUp :
    let ctx : Context := { settings := {}, online := [] }
    let steve : Actor := ⟨"steve", "world", .survival, [], none⟩
    let cancelled : Pass := { text := "foo", cancelled := true }
    let unclosed : Rule := { pattern := "foo", stripBefore := some "(unclosed", cancels := true }
    let slow : Rule := { pattern := "foo", stripBefore := some "o", cancels := true }
    ctx.GivesUp {} unclosed "foo" (some .strip) ⟨"(unclosed", "foo", .fault .malformed⟩ ∧
    (ctx.tryRule .chat steve unclosed { text := "foo" } {}).value = cancelled ∧
    ctx.GivesUp { strip := some 1 } slow "foo" (some .strip) ⟨"o", "foo", .fault .timeout⟩ ∧
    (ctx.tryRule .chat steve slow { text := "foo" } { clock := [{ strip := some 1 }] }).value =
      cancelled :=
  ⟨.strip rfl (Budget.run_of_not_compiles (by decide +kernel) ..), by decide +kernel,
    .strip rfl (by decide +kernel), by decide +kernel⟩

/-- With a preparation that is out of time and a malformed pattern both are reported, and the rule that
would cancel does nothing. -/
theorem tryRule_of_givesUp_twice :
    let ctx : Context := { settings := {}, online := [] }
    let steve : Actor := ⟨"steve", "world", .survival, [], none⟩
    let r : Rule := { pattern := "(", stripBefore := some "o", cancels := true }
    let slow : GivenUp := ⟨"o", "foo", .fault .timeout⟩
    let malformed : GivenUp := ⟨"(", "foo", .fault .malformed⟩
    ∃ before between after, (ctx.tryRule .chat steve r { text := "foo" }).seen
        { clock := [{ strip := some 1 }] } = ({ text := "foo" }, before ++ malformed.report) ∧
      before ++ malformed.report = between ++ slow.report ++ after := by
  intro ctx steve r slow malformed
  have hsearched : ctx.searched { strip := some 1 } r "foo" = "foo" := by decide +kernel
  obtain ⟨hown, hpreparation⟩ := @tryRule_of_givesUp ctx r .chat steve { text := "foo" }
    { clock := [{ strip := some 1 }] } (Cache.sound_nil _) rfl
  obtain ⟨before, -, hseen⟩ := hown _ (.search (Budget.run_of_not_compiles (by decide +kernel) ..))
  obtain ⟨q, between, after, -, -, hseen'⟩ :=
    hpreparation (.strip) slow (.strip rfl (by decide +kernel))
  have hmalformed : (⟨r.pattern, ctx.searched { strip := some 1 } r "foo", .fault .malformed⟩ :
      GivenUp) = malformed := by rw [hsearched]
  exact ⟨before, between, after, hmalformed ▸ hseen,
    hmalformed ▸ congrArg Prod.snd (hseen.symm.trans hseen')⟩

end Context

end Engine

end Moderation
