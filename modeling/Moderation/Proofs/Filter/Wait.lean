import Moderation.Proofs.Filter.Repetition

/-!
The wait that a player is told. The time that has passed is compared with the delay to the last tick of the
clock, and only whole seconds of it are taken off. So the wait is never nothing, and it is over at
the first whole second at which the delay is.
-/
namespace Moderation.Filter

/-! ### Clocks -/

section Clock
variable {ticks s now wait : Nat} {limits : SpamLimits}

/-- The seconds still to wait, begun ones included, on a clock of so many ticks a second. -/
def remainingOn (ticks : Nat) (last : Option Nat) (limits : SpamLimits) (now : Nat) : Option Nat :=
  last.bind fun last =>
    let elapsed := now - last
    if elapsed < ticks * limits.delaySeconds then some (limits.delaySeconds - elapsed / ticks) else none

lemma remaining?_eq_remainingOn (last : Option Nat) (limits : SpamLimits) (now : Nat) :
    remaining? last limits now = remainingOn second last limits now := rfl

/-- The delay is not over exactly if the whole seconds that have passed are fewer than it has. -/
lemma remainingOn_some (hticks : 0 < ticks) (s : Nat) (limits : SpamLimits) (now : Nat) :
    remainingOn ticks (some s) limits now =
      if (now - s) / ticks < limits.delaySeconds then some (limits.delaySeconds - (now - s) / ticks)
      else none := by
  simp only [remainingOn, Option.bind_some, Nat.div_lt_iff_lt_mul hticks, Nat.mul_comm]

lemma add_elapsed_of_remainingOn (hticks : 0 < ticks)
    (h : remainingOn ticks (some s) limits now = some wait) :
    1 ≤ wait ∧ wait + (now - s) / ticks = limits.delaySeconds := by
  rw [remainingOn_some hticks] at h
  split at h
  · cases h
    omega
  · contradiction

/-- Each whole second takes one off the wait, until nothing is left of it. -/
lemma remainingOn_later (hticks : 0 < ticks) (hs : s ≤ now)
    (h : remainingOn ticks (some s) limits now = some wait) (k : Nat) :
    remainingOn ticks (some s) limits (now + ticks * k) = if k < wait then some (wait - k) else none := by
  obtain ⟨-, hdelay⟩ := add_elapsed_of_remainingOn hticks h
  have helapsed : (now + ticks * k - s) / ticks = (now - s) / ticks + k := by
    rw [Nat.sub_add_comm hs, Nat.add_mul_div_left _ _ hticks]
  rw [remainingOn_some hticks, helapsed, ← hdelay]
  by_cases hk : k < wait
  · rw [if_pos hk, if_pos (by omega)]
    exact congrArg some (by omega)
  · rw [if_neg hk, if_neg (by omega)]

end Clock

/-! ### Checks -/

section Check
variable {f : SpamFilter} {h : History} {a : Attempt}

lemma delayOf_fst (f : SpamFilter) (a : Attempt) (h : History) :
    (f.delayOf a h).1 = if f.skipsDelay a then none
      else remaining? (h.track a.sent.channel).time (f.settings.limits a.sent.channel) a.time := by
  cases hr : remaining? (h.track a.sent.channel).time (f.settings.limits a.sent.channel) a.time with
  | some wait => rw [SpamFilter.delayOf, checkDelay_of_remaining hr]
  | none =>
    rw [SpamFilter.delayOf, checkDelay_of_over hr]
    split <;> rfl

lemma isTooFast_check_of_no_wait (hw : (f.delayOf a h).1 = none) :
    (f.check a.sent a.bypass a.time h).1.isTooFast = false := by
  obtain ⟨v, text, hfast, -, hcheck⟩ := check_of_no_wait hw
  rw [hcheck]
  exact hfast

end Check

/-- The wait that is told is exact, on a clock of any precision. It is at least a second and at most the delay.
The same check at each whole second before it is over is refused as well, with the wait that is left
then, and from its end on it is not; a refusal changes nothing in the history. -/
theorem wait_is_exact (f : SpamFilter) (a : Attempt) (h : History) :
    (∀ ticks limits s now wait, 0 < ticks → s ≤ now →
      remainingOn ticks (some s) limits now = some wait →
        1 ≤ wait ∧ wait ≤ limits.delaySeconds ∧
          ∀ k, remainingOn ticks (some s) limits (now + ticks * k) =
            if k < wait then some (wait - k) else none) ∧
    ∀ wait, (∀ s ∈ (h.track a.sent.channel).time, s ≤ a.time) →
      (f.check a.sent a.bypass a.time h).1 = .tooFast wait →
        let after := (f.check a.sent a.bypass a.time h).2
        let later (k : Nat) := f.check a.sent a.bypass (a.time + second * k) after
        1 ≤ wait ∧ wait ≤ (f.settings.limits a.sent.channel).delaySeconds ∧ after = h ∧
          (∀ k, k < wait → later k = (.tooFast (wait - k), h)) ∧
          ∀ k, wait ≤ k → (later k).1.isTooFast = false := by
  constructor
  case left =>
    intro ticks limits s now wait hticks hs hwait
    obtain ⟨hpos, hdelay⟩ := add_elapsed_of_remainingOn hticks hwait
    exact ⟨hpos, hdelay ▸ Nat.le_add_right _ _, remainingOn_later hticks hs hwait⟩
  case right =>
    intro wait hclock hfast after later
    have hafter : after = h := check_of_tooFast hfast
    have hdelay := check_eq_tooFast_iff.1 hfast
    rw [delayOf_fst] at hdelay
    split at hdelay
    · contradiction
    rename_i hskip
    obtain ⟨s, hs⟩ : ∃ s, (h.track a.sent.channel).time = some s := by
      refine Option.ne_none_iff_exists'.1 fun hnone => ?_
      simp [hnone] at hdelay
    rw [hs, remaining?_eq_remainingOn] at hdelay
    have hlater (k : Nat) : (f.delayOf { a with time := a.time + second * k } h).1 =
        if k < wait then some (wait - k) else none := by
      have hskip' : f.skipsDelay { a with time := a.time + second * k } ≠ true := hskip
      rw [delayOf_fst, if_neg hskip', hs, remaining?_eq_remainingOn]
      exact remainingOn_later second_pos (hclock s hs) hdelay k
    obtain ⟨hpos, hsum⟩ := add_elapsed_of_remainingOn second_pos hdelay
    refine ⟨hpos, hsum ▸ Nat.le_add_right _ _, hafter, fun k hk => ?_, fun k hk => ?_⟩
    · simp only [later, hafter]
      exact check_of_wait ((hlater k).trans (if_pos hk))
    · simp only [later, hafter]
      exact isTooFast_check_of_no_wait ((hlater k).trans (if_neg (Nat.not_lt.2 hk)))

/-- A command that comes a nanosecond before two seconds of its delay of three are over has to wait for two
more. A second later it has to wait for one, on a clock of milliseconds too, and then it is allowed. -/
theorem wait_is_exact_before_two_seconds :
    let f : SpamFilter := ⟨{ commands := { delaySeconds := 3 } }, .beginnings [], .beginnings []⟩
    let a : Attempt := ⟨.command "/tell Notch hello", ⟨false, false⟩, 2499999999⟩
    let h : History := { commands := { time := some 500000000 } }
    (∀ s ∈ (h.track a.sent.channel).time, s ≤ a.time) ∧
      (f.check a.sent a.bypass a.time h).1 = .tooFast 2 ∧
      f.check a.sent a.bypass (a.time + second * 1) h = (.tooFast 1, h) ∧
      (f.check a.sent a.bypass (a.time + second * 2) h).1.isTooFast = false ∧
      remainingOn 1000 (some 500) { delaySeconds := 3 } (2499 + 1000 * 1) = some 1 := by
  intro f a h
  have hclock : ∀ s ∈ (h.track a.sent.channel).time, s ≤ a.time := by
    simp [a, h, History.track, Sent.channel]
  have hfast : (f.check a.sent a.bypass a.time h).1 = .tooFast 2 := by decide +kernel
  obtain ⟨hclocks, hchecks⟩ := wait_is_exact f a h
  obtain ⟨-, -, hafter, hbefore, hend⟩ := hchecks 2 hclock hfast
  obtain ⟨-, -, hlater⟩ := hclocks 1000 { delaySeconds := 3 } 500 2499 2 (by decide) (by decide)
    (by decide)
  rw [hafter] at hbefore hend
  exact ⟨hclock, hfast, hbefore 1 (by decide), hend 2 (Nat.le_refl 2), hlater 1⟩

end Moderation.Filter
