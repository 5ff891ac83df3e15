import Mathlib.Data.List.Perm.Subperm
import Moderation.Proofs.Regex.Order

/-!
The walk over the matches of a pattern. The walk is what it is however much fuel there is, as long
as there is more of it than text: after each match the search goes on further ahead. So matches do
not overlap, and there are at most as many of them as there are places in the text.
-/
namespace Moderation.Regex.Compiled
variable {re : Compiled} {text : List Char} {last : Option Nat} {c m : Cursor} {ms : List Cursor}

/-- The matches that a search finds from a cursor on, where `last` is the end of the match before
them. An empty match that begins there is passed over. -/
inductive Walks (re : Compiled) : Option Nat → Option Cursor → List Cursor → Prop
  | ended (last : Option Nat) : Walks re last none []
  | failed {last : Option Nat} {c : Cursor} {n : Nat} (h : re.search c = .failed n) :
    Walks re last (some c) []
  | passed {last : Option Nat} {c m : Cursor} {n : Nat} {ms : List Cursor}
    (h : re.search c = .found m n) (hempty : m.first = m.index) (hlast : last = some m.index)
    (hms : Walks re (some m.index) (next? m) ms) : Walks re last (some c) ms
  | found {last : Option Nat} {c m : Cursor} {n : Nat} {ms : List Cursor}
    (h : re.search c = .found m n) (hlast : m.first = m.index → last ≠ some m.index)
    (hms : Walks re (some m.index) (next? m) ms) : Walks re last (some c) (m :: ms)

/-! ### The walk goes on ahead -/

/-- The walk needs no more fuel than there is text. -/
lemma walks_of_walkFrom (hre : re.keepsOrder = true) {fuel : Nat} (hc : c.Placed text)
    (hfuel : c.rest.length < fuel) (h : (re.walkFrom fuel last c).matches? = some ms) :
    re.Walks last (some c) ms := by
  induction fuel generalizing last c ms with
  | zero => contradiction
  | succ fuel ih =>
    cases hs : re.search c with
    | exhausted =>
      rw [walkFrom, hs] at h
      contradiction
    | failed n =>
      rw [walkFrom, hs] at h
      obtain rfl := Option.some.inj h
      exact .failed hs
    | found m n =>
      rw [walkFrom_of_search hre hc hs] at h
      have hmore {later : List Cursor}
          (hlater : ((next? m).elim .done (re.walkFrom fuel (some m.index))).matches? = some later) :
          re.Walks (some m.index) (next? m) later := by
        cases hd : next? m with
        | none =>
          rw [hd] at hlater
          obtain rfl := Option.some.inj hlater
          exact .ended _
        | some d =>
          -- the search goes on with less text before it, and so with enough fuel
          rw [hd] at hlater
          obtain ⟨hplaced, -, hlt⟩ := next_ahead (ahead_of_search hre hc hs) hd
          have hrest := length_rest hc
          have hrest' := length_rest hplaced
          exact ih hplaced (by omega) hlater
      dsimp only at h
      split at h
      · rename_i hpassed
        exact .passed hs hpassed.1 hpassed.2 (hmore h)
      · rename_i hkept
        obtain ⟨later, hlater, rfl⟩ := Option.map_eq_some_iff.1 h
        exact .found hs (fun hempty hlast => hkept ⟨hempty, hlast⟩) (hmore hlater)

/-- A match ends after the match before it, and it lies where it was looked for or further on. -/
lemma Walks.later (hre : re.keepsOrder = true) {start : Option Cursor} (h : re.Walks last start ms)
    (hstart : ∀ c ∈ start, c.Placed text ∧ ∀ i ∈ last, i ≤ c.index) :
    (∀ m ∈ ms, m.Placed text ∧ m.first ≤ m.index ∧ ∀ i ∈ last, i ≤ m.first ∧ i < m.index) ∧
    ms.Pairwise fun m m' => m.index ≤ m'.first ∧ m.index < m'.index := by
  have hnext {c m : Cursor} {n : Nat} (hc : c.Placed text) (h : re.search c = .found m n) :
      ∀ d ∈ next? m, d.Placed text ∧ ∀ i ∈ some m.index, i ≤ d.index := by
    intro d hd
    obtain ⟨hplaced, hle, -⟩ := next_ahead (ahead_of_search hre hc h) hd
    exact ⟨hplaced, by simpa using hle⟩
  induction h with
  | ended => simp
  | failed => simp
  | @passed last c m n ms h hempty hlast hms ih =>
    obtain ⟨hc, -⟩ := hstart c rfl
    rw [hlast]
    exact ih (hnext hc h)
  | @found last c m n ms h hlast hms ih =>
    obtain ⟨hc, hle⟩ := hstart c rfl
    obtain ⟨hlater, hpairs⟩ := ih (hnext hc h)
    have hm := ahead_of_search hre hc h
    have hstarts := hm.starts
    have hends := hm.ends
    have hafter : ∀ i ∈ last, i ≤ m.first ∧ i < m.index := by
      intro i hi
      have hi' := hle i hi
      refine ⟨by omega, ?_⟩
      by_cases hempty : m.first = m.index
      · have hne : i ≠ m.index := fun he => hlast hempty (he ▸ hi)
        omega
      · omega
    have hbeyond : ∀ m' ∈ ms, m'.Placed text ∧ m'.first ≤ m'.index ∧
        ∀ i ∈ last, i ≤ m'.first ∧ i < m'.index := by
      intro m' hm'
      obtain ⟨hplaced, hends', hafter'⟩ := hlater m' hm'
      obtain ⟨hfirst, hindex⟩ := hafter' m.index rfl
      refine ⟨hplaced, hends', fun i hi => ?_⟩
      obtain ⟨-, hlt⟩ := hafter i hi
      omega
    have hapart : ∀ m' ∈ ms, m.index ≤ m'.first ∧ m.index < m'.index :=
      fun m' hm' => (hlater m' hm').2.2 m.index rfl
    exact ⟨List.forall_mem_cons.2 ⟨⟨hm.placed, hm.ends, hafter⟩, hbeyond⟩,
      List.pairwise_cons.2 ⟨hapart, hpairs⟩⟩

lemma length_le_of_increasing {n : Nat} {l : List Nat} (h : l.Pairwise (· < ·))
    (hl : ∀ i ∈ l, i ≤ n) : l.length ≤ n + 1 := by
  have hnodup : l.Nodup := h.imp fun hlt => Nat.ne_of_lt hlt
  have hsubset : l ⊆ List.range (n + 1) := fun i hi => List.mem_range.2 (Nat.lt_succ_of_le (hl i hi))
  simpa using (List.subperm_of_subset hnodup hsubset).length_le

/-- The matches of a pattern are those of a walk over the text. They come one after the other and do
not overlap, and there is at most one more of them than the text has characters. -/
theorem walks_of_allMatches (hre : re.keepsOrder = true) (h : re.allMatches text = some ms) :
    re.Walks none (some (.start text)) ms ∧
    (∀ m ∈ ms, m.first ≤ m.index ∧ m.index ≤ text.length) ∧
    (ms.Pairwise fun m m' => m.index ≤ m'.first ∧ m.index < m'.index) ∧
    ms.length ≤ text.length + 1 := by
  have hplaced : (Cursor.start text).Placed text := ⟨by simp [Cursor.start], rfl⟩
  have hwalks : re.Walks none (some (.start text)) ms :=
    walks_of_walkFrom hre hplaced (Nat.lt_succ_self _) h
  obtain ⟨hms, hpairs⟩ := @Walks.later re text _ _ hre _ hwalks (by simpa using hplaced)
  have hends : ∀ m ∈ ms, m.index ≤ text.length := fun m hm => index_le_length (hms m hm).1
  refine ⟨hwalks, fun m hm => ⟨(hms m hm).2.1, hends m hm⟩, hpairs, ?_⟩
  have hincreasing : (ms.map (·.index)).Pairwise (· < ·) :=
    List.pairwise_map.2 (hpairs.imp fun hpair => hpair.2)
  simpa using length_le_of_increasing hincreasing (by simpa using hends)

end Moderation.Regex.Compiled
