import Mathlib.Algebra.Ring.Nat
import Mathlib.Data.List.Infix
import Mathlib.Order.Bounds.Defs
import Mathlib.Order.MinMax
import Mathlib.Tactic.Lemma
import Moderation.Filter.Caps

/-!
How many capitals a message has. The longest run is found with a counter that starts anew after every other
character: a number is reached exactly if the flags have a block of that many capitals. Blocks and counts do not
change when the flags are read backwards.
-/
namespace Moderation.Filter

variable {flags : List Bool} {longest run n : ℕ}

/-! ### Blocks of capitals -/

lemma block_prefix_cons_true : List.replicate n true <+: true :: flags ↔
    List.replicate (n - 1) true <+: flags := by
  cases n with
  | zero => simp
  | succ n => simp [List.replicate_succ, List.cons_prefix_cons]

lemma block_prefix_cons_false : List.replicate n true <+: false :: flags ↔ n = 0 := by
  cases n with
  | zero => simp
  | succ n => simp [List.replicate_succ, List.cons_prefix_cons]

lemma block_prefix_mono {m : ℕ} (h : m ≤ n) (hn : List.replicate n true <+: flags) :
    List.replicate m true <+: flags :=
  (List.prefix_replicate_iff.2 ⟨by simpa using h, by simp⟩).trans hn

/-- What the counter reaches: the longest run so far, the run that it is in with the capitals that follow at once,
or a block further on. -/
lemma le_longestRun_iff (h : run ≤ longest) : n ≤ longestRun longest run flags ↔
    n ≤ longest ∨ List.replicate (n - run) true <+: flags ∨ List.replicate n true <:+: flags := by
  induction flags generalizing longest run with
  | nil =>
    simp only [longestRun, List.prefix_nil, List.infix_nil, List.replicate_eq_nil_iff]
    omega
  | cons flag flags ih =>
    rw [List.infix_cons_iff]
    cases flag with
    | true =>
      have hnext : run + 1 ≤ max longest (run + 1) := Nat.le_max_right longest (run + 1)
      rw [longestRun, ih hnext, block_prefix_cons_true, block_prefix_cons_true, Nat.sub_sub]
      constructor
      · rintro (hle | hpre | hin)
        · obtain hle | hle := le_max_iff.1 hle
          · exact .inl hle
          · -- the run that the counter is in needs no more capitals
            have hnone : n - (run + 1) = 0 := by omega
            exact .inr (.inl (by simp [hnone]))
        · exact .inr (.inl hpre)
        · exact .inr (.inr (.inr hin))
      · rintro (hle | hpre | hpre | hin)
        · exact .inl (hle.trans (Nat.le_max_left longest (run + 1)))
        · exact .inr (.inl hpre)
        · -- a block that starts here is no longer than the run goes on
          exact .inr (.inl (block_prefix_mono (by omega) hpre))
        · exact .inr (.inr hin)
    | false =>
      rw [longestRun, ih (Nat.zero_le longest), block_prefix_cons_false, block_prefix_cons_false, Nat.sub_zero]
      constructor
      · rintro (hle | hpre | hin)
        · exact .inl hle
        · exact .inr (.inr (.inr hpre.isInfix))
        · exact .inr (.inr (.inr hin))
      · rintro (hle | hrun | rfl | hin)
        · exact .inl hle
        · exact .inl (by omega)
        · exact .inl (Nat.zero_le longest)
        · exact .inr (.inr hin)

/-- The flags have the blocks that are no longer than the longest run, and no others. -/
theorem le_capsInARow_iff : n ≤ capsInARow flags ↔ List.replicate n true <:+: flags := by
  rw [capsInARow, le_longestRun_iff (Nat.le_refl 0), Nat.sub_zero]
  constructor
  · rintro (hle | hpre | hin)
    · obtain rfl : n = 0 := Nat.le_zero.1 hle
      exact List.nil_infix
    · exact hpre.isInfix
    · exact hin
  · intro hin
    exact .inr (.inr hin)

/-- The longest run is a block, and no block is longer. -/
theorem isGreatest_capsInARow (flags : List Bool) :
    IsGreatest {n | List.replicate n true <:+: flags} (capsInARow flags) := by
  constructor
  · exact le_capsInARow_iff.1 (Nat.le_refl (capsInARow flags))
  · intro n hn
    exact le_capsInARow_iff.2 hn

theorem capsInARow_eq_zero_iff : capsInARow flags = 0 ↔ true ∉ flags := by
  rw [← Nat.lt_one_iff, ← Nat.not_le, le_capsInARow_iff, List.replicate_one, List.singleton_infix_iff]

/-- Read backwards, the flags have the same blocks. -/
theorem capsInARow_reverse (flags : List Bool) : capsInARow flags.reverse = capsInARow flags := by
  apply Nat.le_antisymm
  · rw [le_capsInARow_iff, ← List.reverse_infix, List.reverse_replicate, ← le_capsInARow_iff]
  · rw [le_capsInARow_iff, ← List.reverse_infix, List.reverse_replicate, List.reverse_reverse,
      ← le_capsInARow_iff]

/-! ### The share of capitals -/

lemma capsPercentage_eq (flags : List Bool) :
    capsPercentage flags = 100 * flags.count true / flags.length := by
  cases flags with
  | nil => rfl
  | cons flag flags => rfl

lemma sum_flags (flags : List Bool) : (flags.map Bool.toNat).sum = flags.count true := by
  induction flags with
  | nil => rfl
  | cons flag flags ih => cases flag <;> simp [ih, Nat.add_comm]

lemma capsInARow_le_count (flags : List Bool) : capsInARow flags ≤ flags.count true := by
  have hrun := (isGreatest_capsInARow flags).1.sublist.count_le true
  rwa [List.count_replicate_self] at hrun

/-- The longest run is the length of a longest block of capitals, and the share is the truncated percentage of the
capitals among all characters. It is at least that of the longest run alone, and read backwards both are the
same. -/
theorem capitals_measured (flags : List Bool) :
    IsGreatest {n | List.replicate n true <:+: flags} (capsInARow flags) ∧
    (capsInARow flags = 0 ↔ true ∉ flags) ∧
    capsPercentage flags = 100 * (flags.map Bool.toNat).sum / flags.length ∧
    capsPercentage [] = 0 ∧
    capsPercentage flags ≤ 100 ∧
    100 * capsInARow flags / flags.length ≤ capsPercentage flags ∧
    capsPercentage flags.reverse = capsPercentage flags ∧
    capsInARow flags.reverse = capsInARow flags := by
  refine ⟨isGreatest_capsInARow flags, capsInARow_eq_zero_iff, ?_, rfl, ?_, ?_, ?_, capsInARow_reverse flags⟩
  · rw [sum_flags, capsPercentage_eq]
  · rw [capsPercentage_eq]
    apply Nat.div_le_of_le_mul
    have hall := flags.count_le_length (a := true)
    omega
  · rw [capsPercentage_eq]
    apply Nat.div_le_div_right
    have hrun := capsInARow_le_count flags
    omega
  · rw [capsPercentage_eq, capsPercentage_eq, List.count_reverse, List.length_reverse]

example : capsInARow [true, false, true, true] = 2 ∧ capsPercentage [true, false, true, true] = 75 := by decide

end Moderation.Filter
