import Mathlib.Data.List.Basic
import Mathlib.Tactic.Lemma
import Moderation.Filter.Spam

/-!
Runs of checks for spam, and the delay in them. The time from which the delay counts only goes
forward, whatever the clock does, so that texts that had to wait and did not come too soon are a delay
apart.
-/
namespace Moderation.Filter

/-- Messages and commands have limits of their own, and what was sent last is kept apart. -/
inductive Channel
  | message
  | command
deriving DecidableEq, Repr

def Sent.channel : Sent → Channel
  | .message _ => .message
  | .command _ => .command

/-- The limits for what is sent on a channel. -/
def SpamSettings.limits (s : SpamSettings) : Channel → SpamLimits
  | .message => s.messages
  | .command => s.commands

/-- What was sent last on a channel. -/
def History.track (h : History) : Channel → Track
  | .message => h.messages
  | .command => h.commands

/-- The history with another track of a channel. -/
def History.put (h : History) (c : Channel) (t : Track) : History :=
  match c with
  | .message => { h with messages := t }
  | .command => { h with commands := t }

@[simp] theorem History.track_put (h : History) (c : Channel) (t : Track) :
    (h.put c t).track c = t := by
  cases c <;> rfl

theorem History.track_put_of_ne {c d : Channel} (hc : c ≠ d) (h : History) (t : Track) :
    (h.put c t).track d = h.track d := by
  cases c <;> cases d <;> first | contradiction | rfl

/-- Something that a player sends at a time of the clock. -/
structure Attempt where
  sent : Sent
  bypass : Bypass
  time : Nat
deriving DecidableEq, Repr

/-- An attempt and what was decided about it. -/
structure Decision where
  attempt : Attempt
  verdict : Verdict
deriving DecidableEq, Repr

def Verdict.isTooFast : Verdict → Bool
  | .tooFast _ => true
  | _ => false

namespace SpamFilter

/-- Whether an attempt is exempt from the delay. -/
def skipsDelay (f : SpamFilter) (a : Attempt) : Bool :=
  a.bypass.delay ||
    match a.sent with
    | .message text => f.delayWhitelist.contains text
    | .command text => f.settings.commands.delayWhitelist.contains (commandName text)

/-- What is decided about attempts one after the other. -/
def decisions (f : SpamFilter) : History → List Attempt → List Decision
  | _, [] => []
  | h, a :: as =>
    let (v, h) := f.check a.sent a.bypass a.time h
    ⟨a, v⟩ :: f.decisions h as

/-- The history after attempts one after the other. -/
def historyAfter (f : SpamFilter) (h : History) (as : List Attempt) : History :=
  as.foldl (fun h a => (f.check a.sent a.bypass a.time h).2) h

/-- Whether a text of a channel had to wait for the delay, and did. -/
def waited (f : SpamFilter) (c : Channel) (d : Decision) : Bool :=
  d.attempt.sent.channel == c && !f.skipsDelay d.attempt && !d.verdict.isTooFast

end SpamFilter

/-! ### One check -/

section Check
variable {f : SpamFilter} {limits : SpamLimits} {exempt : Bool} {now : Nat} {t : Track}

/-- The delay is over if it has passed since the time that was kept. -/
theorem remaining?_eq_none_iff {last : Option Nat} (hd : 1 ≤ limits.delaySeconds) :
    remaining? last limits now = none ↔ ∀ s ∈ last, s + second * limits.delaySeconds ≤ now := by
  cases last with
  | none => simp
  | some s =>
    simp only [remaining?, Option.bind_some, ite_eq_right_iff, reduceCtorEq, imp_false, Nat.not_lt,
      Option.mem_some_iff, forall_eq']
    -- the time that has passed is not below zero, even where the clock went back
    have hpos : 0 < second * limits.delaySeconds := Nat.mul_pos second_pos hd
    omega

lemma checkDelay_of_over (h : remaining? t.time limits now = none) :
    checkDelay limits exempt now t = (none, { t with time := some now }) := by
  simp [checkDelay, h]

lemma checkDelay_of_remaining {wait : Nat} (h : remaining? t.time limits now = some wait) :
    checkDelay limits exempt now t = (if exempt then none else some wait, t) := by
  simp [checkDelay, h]

lemma remaining?_of_checkDelay (h : (checkDelay limits false now t).1 = none) :
    remaining? t.time limits now = none := by
  cases hr : remaining? t.time limits now with
  | none => rfl
  | some wait => simp [checkDelay_of_remaining hr] at h

lemma le_time_checkDelay (hd : 1 ≤ limits.delaySeconds) {s u : Nat} (hu : t.time = some u)
    (hs : s ≤ u) : ∃ v, (checkDelay limits exempt now t).2.time = some v ∧ s ≤ v := by
  cases hr : remaining? t.time limits now with
  | some wait => exact ⟨u, by rw [checkDelay_of_remaining hr, hu], hs⟩
  | none =>
    have hle := (remaining?_eq_none_iff hd).1 hr u hu
    exact ⟨now, by rw [checkDelay_of_over hr], by omega⟩

variable (f) in
/-- The check for the delay that an attempt goes through, and what comes of it. -/
def SpamFilter.delayOf (a : Attempt) (h : History) : Option Nat × Track :=
  checkDelay (f.settings.limits a.sent.channel) (f.skipsDelay a) a.time (h.track a.sent.channel)

lemma track_of_wait {a : Attempt} {h : History} {wait : Nat}
    (hw : (f.delayOf a h).1 = some wait) : (f.delayOf a h).2 = h.track a.sent.channel := by
  cases hr : remaining? (h.track a.sent.channel).time (f.settings.limits a.sent.channel) a.time with
  | some s => simp [SpamFilter.delayOf, checkDelay_of_remaining hr]
  | none => simp [SpamFilter.delayOf, checkDelay_of_over hr] at hw

/-- Whoever has to wait is told so, and nothing is kept. -/
theorem check_of_wait {a : Attempt} {h : History} {wait : Nat}
    (hw : (f.delayOf a h).1 = some wait) :
    f.check a.sent a.bypass a.time h = (.tooFast wait, h) := by
  have hd : f.delayOf a h = (some wait, h.track a.sent.channel) := Prod.ext hw (track_of_wait hw)
  obtain ⟨sent, bypass, now⟩ := a
  cases sent with
  | message text =>
    have hd : checkDelay f.settings.messages (bypass.delay || f.delayWhitelist.contains text) now
        h.messages = (some wait, h.messages) := hd
    simp only [SpamFilter.check, SpamFilter.checkMessage, hd]
  | command text =>
    have hd : checkDelay f.settings.commands (bypass.delay ||
        f.settings.commands.delayWhitelist.contains (SpamFilter.commandName text)) now
        h.commands = (some wait, h.commands) := hd
    simp only [SpamFilter.check, SpamFilter.checkCommand, hd]

/-- Whoever need not wait is not told to, and nothing is kept but the time and a text, and no text that
is too similar. -/
theorem check_of_no_wait {a : Attempt} {h : History} (hw : (f.delayOf a h).1 = none) :
    ∃ v text, v.isTooFast = false ∧ (v = .similar → text = (h.track a.sent.channel).text) ∧
      f.check a.sent a.bypass a.time h =
        (v, h.put a.sent.channel ⟨text, (f.delayOf a h).2.time⟩) := by
  obtain ⟨sent, bypass, now⟩ := a
  cases sent with
  | message text =>
    have hw : (checkDelay f.settings.messages (bypass.delay || f.delayWhitelist.contains text) now
        h.messages).1 = none := hw
    simp only [SpamFilter.check, SpamFilter.checkMessage, hw]
    split
    · split
      · exact ⟨.similar, _, rfl, fun _ => checkDelay_text .., rfl⟩
      · exact ⟨.allowed, _, rfl, by simp, rfl⟩
    · exact ⟨.allowed, _, rfl, by simp, rfl⟩
  | command text =>
    have hw : (checkDelay f.settings.commands (bypass.delay ||
        f.settings.commands.delayWhitelist.contains (SpamFilter.commandName text)) now
        h.commands).1 = none := hw
    simp only [SpamFilter.check, SpamFilter.checkCommand, hw]
    generalize f.prepared (if f.settings.ignoreFirstArguments = true then
      SpamFilter.withoutFirstArguments text else text) = compared
    split
    · split
      · split
        · exact ⟨.allowed, _, rfl, by simp, rfl⟩
        · exact ⟨.similar, _, rfl, fun _ => checkDelay_text .., rfl⟩
      · exact ⟨.allowed, _, rfl, by simp, rfl⟩
    · exact ⟨.allowed, _, rfl, by simp, rfl⟩

/-- After a check the time of its channel is the one that the check for the delay left. -/
theorem time_check (a : Attempt) (h : History) :
    ((f.check a.sent a.bypass a.time h).2.track a.sent.channel).time = (f.delayOf a h).2.time := by
  cases hw : (f.delayOf a h).1 with
  | none =>
    obtain ⟨v, text, -, -, hc⟩ := check_of_no_wait hw
    rw [hc, History.track_put]
  | some wait => rw [check_of_wait hw, track_of_wait hw]

/-- A check leaves the other channel alone. -/
theorem track_check_of_ne {a : Attempt} {c : Channel} (hc : a.sent.channel ≠ c) (h : History) :
    (f.check a.sent a.bypass a.time h).2.track c = h.track c := by
  cases hw : (f.delayOf a h).1 with
  | none =>
    obtain ⟨v, text, -, -, heq⟩ := check_of_no_wait hw
    rw [heq, History.track_put_of_ne hc]
  | some wait => rw [check_of_wait hw]

end Check

/-! ### Runs -/

/-- Whether the delay of a channel counts from a time or from a later one. -/
def History.CountsFrom (h : History) (c : Channel) (s : Nat) : Prop :=
  ∃ u, (h.track c).time = some u ∧ s ≤ u

section Run
variable {f : SpamFilter} {c : Channel} {h : History} {a : Attempt}

lemma History.CountsFrom.check {s : Nat} (hs : h.CountsFrom c s)
    (hd : 1 ≤ (f.settings.limits c).delaySeconds) :
    (f.check a.sent a.bypass a.time h).2.CountsFrom c s := by
  obtain ⟨u, hu, hle⟩ := hs
  by_cases hc : a.sent.channel = c
  · subst hc
    unfold History.CountsFrom
    rw [time_check]
    exact le_time_checkDelay hd hu hle
  · exact ⟨u, by rw [track_check_of_ne hc, hu], hle⟩

/-- A text that waited comes a delay after the time that was kept, and its own time is kept. -/
lemma waited_check (hd : 1 ≤ (f.settings.limits c).delaySeconds)
    (hw : f.waited c ⟨a, (f.check a.sent a.bypass a.time h).1⟩ = true) :
    (f.check a.sent a.bypass a.time h).2.CountsFrom c a.time ∧
      ∀ s, h.CountsFrom c s → s + second * (f.settings.limits c).delaySeconds ≤ a.time := by
  simp only [SpamFilter.waited, Bool.and_eq_true, beq_iff_eq, Bool.not_eq_true'] at hw
  obtain ⟨⟨rfl, hskip⟩, hfast⟩ := hw
  have hnone : (f.delayOf a h).1 = none := by
    cases hn : (f.delayOf a h).1 with
    | none => rfl
    | some wait => simp [check_of_wait hn, Verdict.isTooFast] at hfast
  have hr : remaining? (h.track a.sent.channel).time (f.settings.limits a.sent.channel) a.time =
      none := by
    rw [SpamFilter.delayOf, hskip] at hnone
    exact remaining?_of_checkDelay hnone
  refine ⟨⟨a.time, ?_, Nat.le_refl _⟩, ?_⟩
  · rw [time_check, SpamFilter.delayOf, checkDelay_of_over hr]
  · rintro s ⟨u, hu, hle⟩
    have := (remaining?_eq_none_iff hd).1 hr u hu
    omega

/-- Once the delay counts from a time, every text that waited comes a delay after that time. -/
lemma le_time_of_waited (hd : 1 ≤ (f.settings.limits c).delaySeconds) {s : Nat}
    (hs : h.CountsFrom c s) (as : List Attempt) {d : Decision} (hm : d ∈ f.decisions h as)
    (hw : f.waited c d = true) :
    s + second * (f.settings.limits c).delaySeconds ≤ d.attempt.time := by
  induction as generalizing h with
  | nil => simp [SpamFilter.decisions] at hm
  | cons a as ih =>
    rcases List.mem_cons.1 hm with rfl | hm
    · exact (waited_check hd hw).2 s hs
    · exact ih (hs.check hd) hm

end Run

/-- However messages and commands are mixed, whatever is exempt and wherever the clock goes: of any two
texts of a channel that were not exempt from the delay and did not come too soon, the later one was
sent at least the delay after the earlier one. -/
theorem waited_a_delay_apart (f : SpamFilter) (c : Channel)
    (hd : 1 ≤ (f.settings.limits c).delaySeconds) (as : List Attempt) :
    ((f.decisions {} as).filter (f.waited c)).Pairwise fun x y =>
      x.attempt.time + second * (f.settings.limits c).delaySeconds ≤ y.attempt.time := by
  suffices ∀ h : History, ((f.decisions h as).filter (f.waited c)).Pairwise fun x y =>
      x.attempt.time + second * (f.settings.limits c).delaySeconds ≤ y.attempt.time from this {}
  induction as with
  | nil => simp [SpamFilter.decisions]
  | cons a as ih =>
    intro h
    simp only [SpamFilter.decisions, List.filter_cons]
    split
    · rename_i hw
      refine List.pairwise_cons.2 ⟨fun d hm => ?_, ih _⟩
      obtain ⟨hm, hw'⟩ := List.mem_filter.1 hm
      exact le_time_of_waited hd (waited_check hd hw).1 as hm hw'
    · exact ih _

/-- An exempt message in between and a clock that goes back: only the first and the last message waited,
and they are a second apart. -/
theorem waited_a_delay_apart_around_exempt :
    let f : SpamFilter := ⟨{}, .beginnings ["gg"], .beginnings []⟩
    let say (text : String) (time : Nat) : Attempt := ⟨.message text, ⟨false, false⟩, time⟩
    let as := [say "hello there" 500000000, say "gg" 900000000, say "too soon" 1499999999,
      say "sooner" 100, say "at last" 1500000000]
    let delay := (f.settings.limits .message).delaySeconds
    let waited := (f.decisions {} as).filter (f.waited .message)
    1 ≤ delay ∧ waited.map (·.attempt.time) = [500000000, 1500000000] ∧
      waited.Pairwise fun x y => x.attempt.time + second * delay ≤ y.attempt.time := by
  intro f say as delay waited
  exact ⟨by decide, by decide +kernel, waited_a_delay_apart f .message (by decide) as⟩

end Moderation.Filter
