import Mathlib.Data.List.Dedup
import Mathlib.Data.List.DropRight
import Moderation.Proofs.Engine.Cache

/-!
Patterns asked for one after the other. What was compiled for one query is there for those after it, and
it cannot be told from their answers. Since it was last dropped, everything that was asked for and that
is well formed was compiled once, whether or not there was time for it.
-/
namespace Moderation.Engine

/-- Something that is asked about a text, or that what was compiled be dropped. A replacement that names
no mode is one in the mode `normalized`. The clock is in time at so many looks. -/
inductive Query
  | isMatch (looks : Looks) (pattern text : String)
  | tryMatch (looks : Looks) (pattern text : String)
  | replace (looks : Looks) (mode : Mode) (pattern text replacement : String)
  | tryReplace (looks : Looks) (mode : Mode) (pattern text replacement : String)
  | clear
deriving DecidableEq, Repr

/-- What a query is answered. -/
inductive Answer
  | found (found : Bool)
  | tried (found : Except Failure Bool)
  | replaced (text : String)
  | triedReplaced (text : Except Failure String)
  | cleared

/-- The pattern that is compiled for a query. -/
def Query.source? : Query → Option String
  | .isMatch _ pattern _ => some (Mode.normalized.source pattern)
  | .tryMatch _ pattern _ => some (Mode.normalized.source pattern)
  | .replace _ mode pattern _ _ => some (mode.source pattern)
  | .tryReplace _ mode pattern _ _ => some (mode.source pattern)
  | .clear => none

/-- The patterns that were asked for since what was compiled was last dropped. -/
def recentSources (qs : List Query) : List String :=
  (qs.rtakeWhile (· ≠ .clear)).filterMap Query.source?

namespace Budget
variable (b : Budget)

/-- Whether a pattern is well formed. -/
def compiles (source : String) : Bool :=
  (Regex.compile? b.library b.backtracks source.toList).isSome

/-- Answer a query. -/
def answer : Query → Work Answer
  | .isMatch looks pattern text => .found <$> b.isMatch looks pattern text
  | .tryMatch looks pattern text => .tried <$> b.tryMatch looks pattern text
  | .replace looks mode pattern text replacement =>
    .replaced <$> b.replace looks mode pattern text replacement
  | .tryReplace looks mode pattern text replacement =>
    .triedReplaced <$> b.tryReplace looks mode pattern text replacement
  | .clear => fun state => ⟨.cleared, { state with compiled := [] }, []⟩

/-- Answer queries from first to last. -/
def answers (qs : List Query) : Work (List Answer) := qs.mapM b.answer

end Budget

@[simp] theorem recentSources_nil : recentSources [] = [] := rfl

theorem recentSources_concat (qs : List Query) (q : Query) :
    recentSources (qs ++ [q]) = (q.source?.map (recentSources qs ++ [·])).getD [] := by
  unfold recentSources
  by_cases hq : q = .clear
  · subst hq
    rw [List.rtakeWhile_concat_neg _ _ _ (by simp)]
    rfl
  · rw [List.rtakeWhile_concat_pos _ _ _ (by simpa using hq), List.filterMap_append]
    cases q with
    | clear => exact absurd rfl hq
    | _ => rfl

/-! ### What a cache holds -/

/-- Whether a cache holds what compiling gives for those of some patterns that are well formed, each of
them once, and nothing else. -/
structure Cache.HoldsJust (b : Budget) (sources : List String) (cache : Cache) : Prop where
  compiled : ∀ source re, (source, re) ∈ cache → Regex.compile? b.library b.backtracks source.toList = some re
  nodup : (cache.map Prod.fst).Nodup
  mem_iff : ∀ source, source ∈ cache.map Prod.fst ↔ source ∈ sources ∧ b.compiles source = true

lemma Cache.isSome_lookup_iff {cache : Cache} {source : String} :
    (cache.lookup source).isSome = true ↔ source ∈ cache.map Prod.fst := by
  simp only [List.lookup_isSome_iff, beq_iff_eq, List.mem_map, @eq_comm _ source]

namespace Cache.HoldsJust
variable {b : Budget} {sources : List String} {cache : Cache}

theorem nil (b : Budget) : HoldsJust b [] [] where
  compiled := by simp
  nodup := List.nodup_nil
  mem_iff := by simp

/-- There are as many patterns in the cache as different ones that are well formed. -/
theorem length_eq (h : cache.HoldsJust b sources) :
    cache.length = (sources.filter b.compiles).dedup.length := by
  have hperm : (cache.map Prod.fst).Perm (sources.filter b.compiles).dedup := by
    refine (List.perm_ext_iff_of_nodup h.nodup (List.nodup_dedup _)).2 fun source => ?_
    rw [h.mem_iff, List.mem_dedup, List.mem_filter]
  simpa using hperm.length_eq

/-- Nothing has to be compiled for a pattern that is there or malformed. -/
lemma idle (h : cache.HoldsJust b sources) {source : String}
    (hs : b.compiles source = true → source ∈ cache.map Prod.fst) :
    HoldsJust b (sources ++ [source]) cache where
  compiled := h.compiled
  nodup := h.nodup
  mem_iff s := by
    rw [h.mem_iff] at hs
    rw [h.mem_iff, List.mem_append, List.mem_singleton, or_and_right]
    refine ⟨.inl, fun hs' => hs'.elim id ?_⟩
    rintro ⟨rfl, hb⟩
    exact hs hb

lemma cons (h : cache.HoldsJust b sources) {source : String} {re : Regex.Compiled}
    (hs : source ∉ cache.map Prod.fst)
    (hre : Regex.compile? b.library b.backtracks source.toList = some re) :
    HoldsJust b (sources ++ [source]) ((source, re) :: cache) where
  compiled s re' hmem := by
    obtain he | hmem := List.mem_cons.1 hmem
    · obtain ⟨rfl, rfl⟩ := Prod.mk.inj he
      exact hre
    · exact h.compiled s re' hmem
  nodup := List.nodup_cons.2 ⟨hs, h.nodup⟩
  mem_iff s := by
    have hb : b.compiles source = true := by simp [Budget.compiles, hre]
    rw [List.map_cons, List.mem_cons, h.mem_iff, List.mem_append, List.mem_singleton, or_and_right,
      or_comm]
    exact or_congr_right ⟨fun he => ⟨he, he ▸ hb⟩, And.left⟩

/-- Asking for a pattern compiles it, unless it is there or malformed. -/
theorem compile {state : State} (h : state.compiled.HoldsJust b sources) (source : String) :
    HoldsJust b (sources ++ [source]) (b.compile source state).state.compiled := by
  cases hl : state.compiled.lookup source with
  | some re =>
    rw [Budget.compile_of_mem hl]
    exact h.idle fun _ => Cache.isSome_lookup_iff.1 (by rw [hl]; rfl)
  | none =>
    cases hre : Regex.compile? b.library b.backtracks source.toList with
    | none =>
      simp only [Budget.compile, hl, hre]
      exact h.idle fun hb => by simp [Budget.compiles, hre] at hb
    | some re =>
      simp only [Budget.compile, hl, hre]
      refine h.cons (fun hs => ?_) hre
      rw [← Cache.isSome_lookup_iff, hl] at hs
      contradiction

end Cache.HoldsJust

/-! ### Queries in turn -/

namespace Budget
variable (b : Budget)

@[simp] theorem state_run {α : Type} (looks : Looks) (source : String)
    (use : Regex.Compiled → Regex.Use α) (state : State) :
    (b.run looks source use state).state = (b.compile source state).state := by
  simp only [run, Work.bind_apply]
  cases (b.compile source state).value <;> rfl

@[simp] theorem state_orReport {α : Type} (pattern text : String) (otherwise : α)
    (w : Work (Except Failure α)) (state : State) :
    (b.orReport pattern text otherwise w state).state = (w state).state := by
  simp only [orReport, Work.bind_apply]
  cases (w state).value with
  | ok a => rfl
  | error failure => cases failure <;> rfl

/-- A query compiles its pattern and nothing else, or drops everything. -/
theorem compiled_answer (q : Query) (state : State) :
    (b.answer q state).state.compiled =
      (q.source?.map fun source => (b.compile source state).state.compiled).getD [] := by
  cases q <;> simp [answer, Query.source?, isMatch, tryMatch, replace, tryReplace]

theorem ignoresCache_answer (q : Query) : (b.answer q).IgnoresCache b := by
  cases q with
  | isMatch looks pattern text => exact (ignoresCache_isMatch ..).map _
  | tryMatch looks pattern text => exact (ignoresCache_run ..).map _
  | replace looks mode pattern text replacement => exact (ignoresCache_replace ..).map _
  | tryReplace looks mode pattern text replacement => exact (ignoresCache_run ..).map _
  | clear =>
    exact ⟨fun _ => rfl, fun _ => rfl, fun _ => rfl, fun _ => Cache.sound_nil b, fun _ => rfl,
      fun _ => rfl⟩

lemma answers_cons (q : Query) (qs : List Query) (state : State) :
    b.answers (q :: qs) state =
      let first := b.answer q state
      let rest := b.answers qs first.state
      ⟨first.value :: rest.value, rest.state, first.effects ++ rest.effects⟩ := by
  simp [answers]

lemma state_answers_concat (qs : List Query) (q : Query) (state : State) :
    (b.answers (qs ++ [q]) state).state = (b.answer q (b.answers qs state).state).state := by
  simp [answers]

/-- In turn every query is answered as it would be alone. -/
theorem answers_eq (qs : List Query) {state : State} (hc : state.compiled.Sound b) :
    (b.answers qs state).value = qs.map (fun q => (b.answer q {}).value) ∧
      (b.answers qs state).effects = qs.flatMap fun q => (b.answer q {}).effects := by
  induction qs generalizing state with
  | nil => exact ⟨rfl, rfl⟩
  | cons q qs ih =>
    have hq := b.ignoresCache_answer q
    have hfresh : state.compiled.Alike b ({} : State).compiled := .inr ⟨hc, Cache.sound_nil b⟩
    obtain ⟨hvalue, heffects⟩ := ih (hq.sound hc)
    simp only [answers_cons, hvalue, heffects, hq.value_eq hfresh, hq.effects_eq hfresh,
      List.map_cons, List.flatMap_cons, and_self]

/-- After queries just what was asked for since the last time that it was dropped is compiled. -/
theorem holdsJust_answers (qs : List Query) :
    (b.answers qs {}).state.compiled.HoldsJust b (recentSources qs) := by
  induction qs using List.reverseRecOn with
  | nil => exact .nil b
  | append_singleton qs q ih =>
    rw [state_answers_concat, compiled_answer, recentSources_concat]
    cases q.source? with
    | none => exact .nil b
    | some source => exact ih.compile source

/-- Queries one after the other are answered, and leave the same reports, as if nothing had been compiled
before each of them. After any of them each entry of the cache is what compiling its source gives, the
entries are for the well-formed patterns that were asked for since the cache was last dropped, and there
is one for each of them. -/
theorem answers_unaffected (qs : List Query) :
    let asked := b.answers qs {}
    let cache := asked.state.compiled
    asked.value = qs.map (fun q => (b.answer q {}).value) ∧
    asked.effects = qs.flatMap (fun q => (b.answer q {}).effects) ∧
    (∀ entry ∈ cache, Regex.compile? b.library b.backtracks entry.1.toList = some entry.2) ∧
    (∀ source, source ∈ cache.map Prod.fst ↔
      source ∈ recentSources qs ∧ b.compiles source = true) ∧
    cache.length = ((recentSources qs).filter b.compiles).dedup.length := by
  intro asked cache
  have hfresh : Cache.Sound b ({} : State).compiled := Cache.sound_nil b
  obtain ⟨hvalue, heffects⟩ := b.answers_eq qs hfresh
  have hcache := b.holdsJust_answers qs
  exact ⟨hvalue, heffects, fun entry => hcache.compiled entry.1 entry.2, hcache.mem_iff,
    hcache.length_eq⟩

example :
    let b : Budget := { timeout := 0, backtracks := 100 }
    let asked := b.answers [.isMatch none "abc" "abc", .replace none .exact "abc" "abc" "x",
      .tryMatch none "(" "abc", .tryReplace none .keepColors "a§cbc" "abc" ""] {}
    asked.state.compiled.map Prod.fst = ["abc", "(?i)abc"] := by
  decide +kernel

end Budget

end Moderation.Engine
