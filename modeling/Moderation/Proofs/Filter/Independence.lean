import Moderation.Proofs.Filter.Delay

/-!
Messages and commands do not interfere. What is decided about one channel, and what is kept of it, is the
same as if nothing had been sent on the other one.
-/
namespace Moderation.Filter

/-- Whether an attempt is made on a channel. -/
def Attempt.isOn (c : Channel) (a : Attempt) : Bool := a.sent.channel == c

namespace SpamFilter
variable {f : SpamFilter} {c : Channel} {h h' : History}

lemma check_congr {a : Attempt} (ht : h.track a.sent.channel = h'.track a.sent.channel) :
    (f.check a.sent a.bypass a.time h).1 = (f.check a.sent a.bypass a.time h').1 ∧
      (f.check a.sent a.bypass a.time h).2.track a.sent.channel =
        (f.check a.sent a.bypass a.time h').2.track a.sent.channel := by
  obtain ⟨sent, bypass, now⟩ := a
  cases sent with
  | message text =>
    have ht : h.messages = h'.messages := ht
    simp only [check, Sent.channel, History.track, ht, and_self]
  | command text =>
    have ht : h.commands = h'.commands := ht
    simp only [check, Sent.channel, History.track, ht, and_self]

/-- Of two histories with the same track of a channel, the one goes on with all that is sent and the
other with what is sent on the channel only. -/
lemma decisions_filter (ht : h.track c = h'.track c) (as : List Attempt) :
    (f.decisions h as).filter (fun d => d.attempt.isOn c) =
      f.decisions h' (as.filter (Attempt.isOn c)) := by
  induction as generalizing h h' with
  | nil => rfl
  | cons a as ih =>
    by_cases hc : a.sent.channel = c
    · subst hc
      obtain ⟨hv, hkept⟩ := @check_congr f h h' a ht
      simp [decisions, Attempt.isOn, hv, ← ih hkept]
    · have hkept : (f.check a.sent a.bypass a.time h).2.track c = h'.track c := by
        rw [track_check_of_ne hc, ht]
      simp [decisions, Attempt.isOn, hc, ← ih hkept]

lemma track_historyAfter_filter (ht : h.track c = h'.track c) (as : List Attempt) :
    (f.historyAfter h as).track c =
      (f.historyAfter h' (as.filter (Attempt.isOn c))).track c := by
  induction as generalizing h h' with
  | nil => exact ht
  | cons a as ih =>
    by_cases hc : a.sent.channel = c
    · subst hc
      rw [List.filter_cons_of_pos (by simp [Attempt.isOn])]
      exact ih (check_congr ht).2
    · rw [List.filter_cons_of_neg (by simpa [Attempt.isOn] using hc)]
      refine ih ?_
      rw [track_check_of_ne hc, ht]

end SpamFilter

/-- However messages and commands are mixed: the decisions about a channel, and the text and the time
that are kept for it in the end, are those of a run in which the other channel is not used. -/
theorem decisions_of_channel (f : SpamFilter) (c : Channel) (as : List Attempt) :
    (f.decisions {} as).filter (fun d => d.attempt.isOn c) =
      f.decisions {} (as.filter (Attempt.isOn c)) ∧
    (f.historyAfter {} as).track c = (f.historyAfter {} (as.filter (Attempt.isOn c))).track c :=
  ⟨SpamFilter.decisions_filter rfl as, SpamFilter.track_historyAfter_filter rfl as⟩

/-- A command between two messages that are alike, and a message before a command: neither makes the
other one too soon or too similar. -/
example :
    let f : SpamFilter := ⟨{}, .beginnings [], .beginnings []⟩
    let free : Bypass := ⟨false, false⟩
    (f.decisions {} [⟨.message "hello there", free, 0⟩, ⟨.command "/hello there", free, 0⟩,
      ⟨.message "hello there", free, 9 * second⟩]).map (·.verdict) = [.allowed, .allowed, .similar] := by
  decide +kernel

end Moderation.Filter
