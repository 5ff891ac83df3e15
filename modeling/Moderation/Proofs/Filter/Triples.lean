import Mathlib.Data.List.Infix
import Mathlib.Data.List.SplitBy
import Mathlib.Tactic.Lemma
import Moderation.Filter.Similarity

/-!
Blocks of one, two and three characters that stand three times in a row. A pass takes out blocks of one
length, and what it leaves has none of them three times in a row: what is periodic at the beginning of
what is left is so at the beginning of the text, since the two blocks that stay of a run are those with
which it begins. For the same reason no pass brings shorter blocks together.
-/
namespace Moderation.Filter

/-- Whether `size` characters that stand here, none of them a line end, stand here twice more. -/
def startsTriple (size : Nat) (cs : List Char) : Bool :=
  let block := cs.take size
  block.length == size && !block.contains '\n' &&
    (block ++ block).isPrefixOf (cs.drop size)

/-- A text in which runs of three or more equal blocks keep only their last two. `skip` characters
still belong to a block that goes. -/
def shortenAfter (size : Nat) : (skip : Nat) → List Char → List Char
  | _, [] => []
  | k + 1, _ :: r => shortenAfter size k r
  | 0, c :: r =>
    if startsTriple size (c :: r) then shortenAfter size (size - 1) r
    else c :: shortenAfter size 0 r

/-- A text in which runs of equal blocks of one, two and three characters keep only their last two. -/
def shortenRuns (cs : List Char) : List Char :=
  [1, 2, 3].foldl (fun cs size => shortenAfter size 0 cs) cs

variable {size skip n : Nat} {c : Char} {cs r block : List Char}

/-- The first `n` characters of a text come again after `size` characters, as long as they do, and none of
them is a line end. -/
structure Periodic (size n : Nat) (cs : List Char) : Prop where
  le_length : n ≤ cs.length
  again : ∀ i, i + size < n → cs[i + size]? = cs[i]?
  no_line_end : ∀ i < n, cs[i]? ≠ some '\n'

lemma Periodic.tail (h : Periodic size (n + 1) (c :: r)) : Periodic size n r where
  le_length := by simpa using h.le_length
  again i hi := by
    have := h.again (i + 1) (by omega)
    rwa [Nat.add_right_comm, List.getElem?_cons_succ, List.getElem?_cons_succ] at this
  no_line_end i hi := by simpa using h.no_line_end (i + 1) (by omega)

/-- A period before the first character is one with it, if the character comes again and is no line end. -/
lemma Periodic.cons (h : Periodic size n r) (hagain : size < n + 1 → (c :: r)[size]? = some c)
    (hc : c ≠ '\n') : Periodic size (n + 1) (c :: r) where
  le_length := by simpa using h.le_length
  again i hi := by
    cases i with
    | zero => simpa using hagain (by omega)
    | succ i =>
      rw [Nat.add_right_comm, List.getElem?_cons_succ, List.getElem?_cons_succ]
      exact h.again i (by omega)
  no_line_end i hi := by
    cases i with
    | zero => simpa using hc
    | succ i => simpa using h.no_line_end i (by omega)

lemma Periodic.of_drop (htriple : Periodic size (3 * size) cs) (h : Periodic size n (cs.drop size)) :
    Periodic size n cs where
  le_length := h.le_length.trans (by simp)
  again i hi := by
    by_cases hlow : i + size < 3 * size
    · exact htriple.again i hlow
    · have := h.again (i - size) (by omega)
      rw [List.getElem?_drop, List.getElem?_drop] at this
      rwa [show size + (i - size + size) = i + size by omega,
        show size + (i - size) = i by omega] at this
  no_line_end i hi := by
    by_cases hlow : i < 3 * size
    · exact htriple.no_line_end i hlow
    · have := h.no_line_end (i - size) (by omega)
      rwa [List.getElem?_drop, show size + (i - size) = i by omega] at this

lemma Periodic.take_drop (h : Periodic size (3 * size) cs) :
    (cs.drop size).take (2 * size) = cs.take (2 * size) := by
  refine List.ext_getElem? fun i => ?_
  rw [List.getElem?_take, List.getElem?_take, List.getElem?_drop, Nat.add_comm size]
  split
  · exact h.again i (by omega)
  · rfl

lemma Periodic.of_triple (hsize : block.length = size) (hline : '\n' ∉ block)
    (h : block ++ block ++ block <+: cs) : Periodic size (3 * size) cs := by
  obtain ⟨rest, rfl⟩ := h
  constructor <;> grind

lemma startsTriple_iff : startsTriple size cs = true ↔
    (size ≤ cs.length ∧ '\n' ∉ cs.take size) ∧ cs.take size ++ cs.take size <+: cs.drop size := by
  have hlength : min size cs.length = size ↔ size ≤ cs.length := by omega
  simp [startsTriple, hlength]

lemma exists_of_startsTriple (h : startsTriple size cs = true) :
    ∃ block, block.length = size ∧ '\n' ∉ block ∧ block ++ block ++ block <+: cs := by
  obtain ⟨⟨hsize, hline⟩, rest, hrest⟩ := startsTriple_iff.1 h
  refine ⟨cs.take size, List.length_take_of_le hsize, hline, rest, ?_⟩
  rw [List.append_assoc, List.append_assoc, ← List.append_assoc (cs.take size) _ rest, hrest,
    List.take_append_drop]

lemma Periodic.of_startsTriple (h : startsTriple size cs = true) : Periodic size (3 * size) cs := by
  obtain ⟨block, hsize, hline, hprefix⟩ := exists_of_startsTriple h
  exact .of_triple hsize hline hprefix

lemma Periodic.startsTriple (h : Periodic size (3 * size) cs) : startsTriple size cs = true := by
  have hlength := h.le_length
  have hline : '\n' ∉ cs.take size := fun hm => by
    obtain ⟨i, hi, he⟩ := List.mem_take_iff_getElem.1 hm
    exact h.no_line_end i (by omega) (List.getElem?_eq_some_iff.2 ⟨by omega, he⟩)
  have hnext : (cs.drop size).take size = cs.take size := by
    simpa [List.take_take, show min size (2 * size) = size by omega] using
      congrArg (List.take size) h.take_drop
  have hblocks : cs.take size ++ cs.take size = (cs.drop size).take (2 * size) := by
    rw [h.take_drop, Nat.two_mul, List.take_add, hnext]
  refine startsTriple_iff.2 ⟨⟨by omega, hline⟩, ?_⟩
  rw [hblocks]
  exact List.take_prefix _ _

/-! ### What a pass leaves -/

lemma shortenAfter_skip (size k : Nat) (cs : List Char) :
    shortenAfter size k cs = shortenAfter size 0 (cs.drop k) := by
  induction cs generalizing k with
  | nil => simp [shortenAfter]
  | cons c r ih =>
    cases k with
    | zero => rfl
    | succ k => rw [shortenAfter, ih, List.drop_succ_cons]

lemma shortenAfter_of_startsTriple (hpos : 1 ≤ size) (h : startsTriple size cs = true) :
    shortenAfter size 0 cs = shortenAfter size 0 (cs.drop size) := by
  cases cs with
  | nil => simp
  | cons c r =>
    obtain ⟨k, rfl⟩ := Nat.exists_eq_add_of_le' hpos
    rw [shortenAfter, if_pos h, Nat.add_sub_cancel, shortenAfter_skip, List.drop_succ_cons]

lemma shortenAfter_cons (h : startsTriple size (c :: r) ≠ true) :
    shortenAfter size 0 (c :: r) = c :: shortenAfter size 0 r := by
  rw [shortenAfter, if_neg h]

/-- The two blocks that stay of a run stand where it began. -/
lemma take_shortenAfter (size skip : Nat) (cs : List Char) :
    (shortenAfter size skip cs).take (2 * size) = (cs.drop skip).take (2 * size) := by
  fun_induction shortenAfter size skip cs with
  | case1 => simp
  | case2 k c r ih => exact ih
  | case3 c r htriple ih =>
    rw [ih]
    cases size with
    | zero => rfl
    | succ k => exact (Periodic.of_startsTriple htriple).take_drop
  | case4 c r hno ih =>
    cases size with
    | zero => rfl
    | succ k =>
      rw [List.drop_zero] at ih ⊢
      have := congrArg (List.take (2 * k + 1)) ih
      simpa [List.take_take, Nat.mul_add, show min (2 * k + 1) (2 * k + 2) = 2 * k + 1 by omega]
        using this

/-- What repeats at the beginning of what is left repeats at the beginning of the text. -/
lemma periodic_of_shortenAfter (hsize : 1 ≤ size) (h : Periodic size n (shortenAfter size skip cs)) :
    Periodic size n (cs.drop skip) := by
  fun_induction shortenAfter size skip cs generalizing n with
  | case1 => simpa using h
  | case2 k c r ih => exact ih h
  | case3 c r htriple ih =>
    obtain ⟨k, rfl⟩ := Nat.exists_eq_add_of_le' hsize
    exact (Periodic.of_startsTriple htriple).of_drop (ih h)
  | case4 c r hno ih =>
    cases n with
    | zero => exact ⟨Nat.zero_le _, by simp, by simp⟩
    | succ n =>
      refine (ih h.tail).cons (fun hn => ?_) (by simpa using h.no_line_end 0 (by omega))
      -- the place one period on is among the characters that stay as they are
      obtain ⟨k, rfl⟩ := Nat.exists_eq_add_of_le' hsize
      have htake := congrArg (·[k]?) (take_shortenAfter (k + 1) 0 r)
      have hagain := h.again 0 (by omega)
      simp only [List.getElem?_take, show k < 2 * (k + 1) by omega, if_true, List.drop_zero] at htake
      simpa [htake] using hagain

/-- A pass leaves no block of its length three times in a row. -/
theorem not_infix_shortenAfter (hsize : block.length = size) (hpos : 1 ≤ size)
    (hline : '\n' ∉ block) (skip : Nat) (cs : List Char) :
    ¬block ++ block ++ block <:+: shortenAfter size skip cs := by
  have hne : block ++ block ++ block ≠ [] := by
    have hb : block ≠ [] := List.ne_nil_of_length_pos (by omega)
    simpa using hb
  fun_induction shortenAfter size skip cs with
  | case1 => simpa using hne
  | case2 k c r ih => exact ih
  | case3 c r htriple ih => exact ih
  | case4 c r hno ih =>
    intro h
    obtain hprefix | hinfix := List.infix_cons_iff.1 h
    · rw [← shortenAfter_cons hno] at hprefix
      exact hno (periodic_of_shortenAfter hpos (.of_triple hsize hline hprefix)).startsTriple
    · exact ih hinfix

/-- A pass brings nothing together that is not longer than two of its blocks and a character. -/
theorem infix_of_infix_shortenAfter {part : List Char} (hpart : part.length ≤ 2 * size + 1)
    (h : part <:+: shortenAfter size skip cs) : part <:+: cs := by
  fun_induction shortenAfter size skip cs with
  | case1 => exact h
  | case2 k c r ih => exact (ih h).trans (List.suffix_cons c r).isInfix
  | case3 c r htriple ih => exact (ih h).trans (List.suffix_cons c r).isInfix
  | case4 c r hno ih =>
    obtain hprefix | hinfix := List.infix_cons_iff.1 h
    · refine List.IsPrefix.isInfix ?_
      cases part with
      | nil => exact List.nil_prefix
      | cons d part =>
        obtain ⟨rfl, hrest⟩ := List.cons_prefix_cons.1 hprefix
        refine List.cons_prefix_cons.2 ⟨rfl, ?_⟩
        have htake := hrest.take (2 * size)
        rw [take_shortenAfter, List.drop_zero, List.take_of_length_le (by simpa using hpart)] at htake
        exact htake.trans (List.take_prefix _ _)
    · exact (ih hinfix).trans (List.suffix_cons c r).isInfix

/-- A text without three blocks in a row is left as it is. -/
theorem shortenAfter_eq_self (h : ∀ block, block.length = size → '\n' ∉ block →
    ¬block ++ block ++ block <:+: cs) : shortenAfter size 0 cs = cs := by
  induction cs with
  | nil => rw [shortenAfter]
  | cons c r ih =>
    have hno : startsTriple size (c :: r) ≠ true := fun htriple => by
      obtain ⟨block, hsize, hline, hprefix⟩ := exists_of_startsTriple htriple
      exact h block hsize hline hprefix.isInfix
    rw [shortenAfter_cons hno, ih fun block hsize hline hr =>
      h block hsize hline (hr.trans (List.suffix_cons c r).isInfix)]

/-! ### Runs of one character -/

lemma startsTriple_one : startsTriple 1 (c :: r) = true ↔ c ≠ '\n' ∧ [c, c] <+: r := by
  simp [startsTriple, ne_comm]

lemma shortenAfter_replicate_append (n : Nat) (h : r.head? ≠ some c) :
    shortenAfter 1 0 (.replicate n c ++ r) =
      .replicate (if c = '\n' then n else min n 2) c ++ shortenAfter 1 0 r := by
  induction n with
  | zero => simp
  | succ n ih =>
    have htwo : [c, c] <+: List.replicate n c ++ r ↔ 2 ≤ n := by
      match n with
      | 0 => cases r <;> simp_all [ne_comm]
      | 1 => cases r <;> simp_all [ne_comm]
      | n + 2 => simp [List.replicate_succ]
    rw [List.replicate_succ, List.cons_append, shortenAfter]
    by_cases hc : c = '\n'
    · rw [if_neg fun htriple => (startsTriple_one.1 htriple).1 hc, ih, if_pos hc, if_pos hc]
      rfl
    · simp only [startsTriple_one, ne_eq, hc, not_false_eq_true, true_and, htwo, Nat.sub_self, ih, if_false]
      split
      · rw [show min (n + 1) 2 = min n 2 by omega]
      · rw [show min (n + 1) 2 = min n 2 + 1 by omega]
        rfl

/-- What a pass for single characters makes of a run. -/
def shortenRun (run : List Char) : List Char := if '\n' ∈ run then run else run.take 2

lemma shortenRun_replicate (n : Nat) (c : Char) :
    shortenRun (.replicate n c) = .replicate (if c = '\n' then n else min n 2) c := by
  by_cases hc : c = '\n'
  · by_cases hn : n = 0 <;> simp [shortenRun, hc, hn]
  · simp [shortenRun, Ne.symm hc, hc, List.take_replicate, Nat.min_comm]

lemma shortenAfter_flatten {runs : List (List Char)} (hne : [] ∉ runs)
    (hrun : ∀ run ∈ runs, run.IsChain fun a b => (a == b) = true)
    (hnext : runs.IsChain fun s t => ∃ hs ht, (s.getLast hs == t.head ht) = false) :
    shortenAfter 1 0 runs.flatten = runs.flatMap shortenRun := by
  induction runs with
  | nil => rfl
  | cons run runs ih =>
    obtain ⟨hne', hnes⟩ : run ≠ [] ∧ [] ∉ runs := by simpa [eq_comm] using hne
    obtain ⟨hchain, hchains⟩ := List.forall_mem_cons.1 hrun
    obtain ⟨n, c, rfl⟩ : ∃ n c, run = .replicate (n + 1) c := by
      obtain ⟨c, rest, rfl⟩ := List.exists_cons_of_ne_nil hne'
      have hrest : rest = .replicate rest.length c :=
        List.isChain_cons_eq_iff_eq_replicate.1 (by simpa using hchain)
      exact ⟨rest.length, c, by rw [List.replicate_succ, ← hrest]⟩
    have hdiffers : runs.flatten.head? ≠ some c := by
      cases runs with
      | nil => simp
      | cons next runs =>
        obtain ⟨⟨_, _, hc⟩, -⟩ := List.isChain_cons_cons.1 hnext
        obtain ⟨d, rest, rfl⟩ := List.exists_cons_of_ne_nil (List.ne_of_not_mem_cons hnes).symm
        simpa [ne_comm] using hc
    rw [List.flatten_cons, List.flatMap_cons, ← ih hnes hchains hnext.tail,
      shortenAfter_replicate_append _ hdiffers, shortenRun_replicate]

/-- The pass for single characters shortens every run of three or more to two, but for line ends, and
changes nothing else. -/
theorem shortenAfter_one (cs : List Char) :
    shortenAfter 1 0 cs = (cs.splitBy (· == ·)).flatMap shortenRun := by
  obtain ⟨hflatten, hne, hrun, hnext⟩ := List.splitBy_eq_iff.1 (rfl : cs.splitBy (· == ·) = _)
  rw [← shortenAfter_flatten hne hrun hnext, ← hflatten]

/-! ### All passes -/

/-- A block of up to three characters, none of them a line end, stands three times in a row. -/
def HasTriple (cs : List Char) : Prop :=
  ∃ block, block ≠ [] ∧ block.length ≤ 3 ∧ '\n' ∉ block ∧ block ++ block ++ block <:+: cs

lemma shortenAfter_sublist (size skip : Nat) (cs : List Char) :
    (shortenAfter size skip cs).Sublist cs := by
  fun_induction shortenAfter size skip cs with
  | case1 => exact List.Sublist.refl []
  | case2 k c r ih => exact ih.cons c
  | case3 c r hrun ih => exact ih.cons c
  | case4 c r hrun ih => exact ih.cons_cons c

lemma shortenRuns_sublist (cs : List Char) : (shortenRuns cs).Sublist cs :=
  (shortenAfter_sublist ..).trans ((shortenAfter_sublist ..).trans (shortenAfter_sublist ..))

lemma shortenRuns_eq (cs : List Char) :
    shortenRuns cs = shortenAfter 3 0 (shortenAfter 2 0 (shortenAfter 1 0 cs)) := rfl

/-- A later pass brings no shorter block together three times in a row. -/
lemma not_hasTriple_shortenRuns (cs : List Char) : ¬HasTriple (shortenRuns cs) := by
  rintro ⟨block, hne, hle, hline, hblock⟩
  rw [shortenRuns_eq] at hblock
  have hpos := List.length_pos_of_ne_nil hne
  have hlength : (block ++ block ++ block).length = 3 * block.length := by
    simp only [List.length_append]
    omega
  obtain h3 | h12 : block.length = 3 ∨ block.length ≤ 2 := by omega
  · exact not_infix_shortenAfter h3 (by omega) hline 0 _ hblock
  have hblock := infix_of_infix_shortenAfter (by omega) hblock
  obtain h2 | h1 : block.length = 2 ∨ block.length = 1 := by omega
  · exact not_infix_shortenAfter h2 (by omega) hline 0 _ hblock
  have hblock := infix_of_infix_shortenAfter (by omega) hblock
  exact not_infix_shortenAfter h1 (by omega) hline 0 _ hblock

lemma shortenRuns_eq_self_iff : shortenRuns cs = cs ↔ ¬HasTriple cs := by
  constructor
  · intro h
    rw [← h]
    exact not_hasTriple_shortenRuns cs
  · intro h
    have hkeep {size : Nat} (hpos : 1 ≤ size) (hle : size ≤ 3) : shortenAfter size 0 cs = cs := by
      refine shortenAfter_eq_self fun block hsize hline hblock => h ?_
      exact ⟨block, List.ne_nil_of_length_pos (by omega), by omega, hline, hblock⟩
    rw [shortenRuns_eq, hkeep (by omega) (by omega), hkeep (by omega) (by omega),
      hkeep (by omega) (by omega)]

end Moderation.Filter
