import Mathlib.Tactic.Lemma
import Moderation.Regex.Compiled

/-!
The matches of a pattern in a text. The first of them is the one that tells whether there is a match
at all.
-/
namespace Moderation.Regex.Compiled
variable {re : Compiled} {text : List Char}

/-- A search that comes to an end has told whether there is a match. -/
theorem isMatch_of_matchUse {found : Bool} (h : (re.matchUse text).result = .done found) :
    re.isMatch text = some found := by
  unfold matchUse at h
  cases hm : re.isMatch text <;> simp_all

/-- The first match is never passed over, since no match ended before it. -/
lemma matches?_of_found {fuel : Nat} {c m : Cursor} {n : Nat} {ms : List Cursor}
    (hm : re.search c = .found m n) (h : (re.walkFrom (fuel + 1) none c).matches? = some ms) :
    ∃ later, ms = m :: later := by
  rw [walkFrom, hm] at h
  simp only [reduceCtorEq, if_false] at h
  split at h
  · obtain ⟨later, -, rfl⟩ := Option.map_eq_some_iff.1 h
    exact ⟨later, rfl⟩
  · split at h
    · obtain ⟨later, -, rfl⟩ := Option.map_eq_some_iff.1 h
      exact ⟨later, rfl⟩
    · obtain ⟨later, -, rfl⟩ := Option.map_eq_some_iff.1 h
      exact ⟨later, rfl⟩

/-- There are matches exactly if the text has a match. -/
theorem allMatches_ne_nil_iff {ms : List Cursor} (h : re.allMatches text = some ms) :
    ms ≠ [] ↔ re.isMatch text = some true := by
  unfold allMatches walk at h
  unfold isMatch
  cases hs : re.search (.start text) with
  | found m n =>
    obtain ⟨later, rfl⟩ := matches?_of_found hs h
    simp
  | failed n =>
    rw [walkFrom, hs] at h
    simp [← Option.some.inj h]
  | exhausted =>
    rw [walkFrom, hs] at h
    contradiction

end Moderation.Regex.Compiled
