import Moderation.Filter.Settings
import Moderation.Filter.Similarity
import Moderation.Regex.Compiled
import Moderation.Log
import Moderation.Error

/-!
Spam: texts that come too soon after the one before, or say nearly the same. What was sent last is
kept for each player, for messages and for commands.
-/
namespace Moderation.Filter
open Moderation.Text

inductive Verdict
  | allowed
  | tooFast (seconds : Nat)
  | similar
deriving DecidableEq, Repr

structure Bypass where
  delay : Bool
  similarity : Bool
deriving DecidableEq, Repr

/-- A second on the clock, which counts nanoseconds. -/
def second : Nat := 1000000000

/-- The last text that was compared, made ready to be compared again, and the time of the clock from
which the delay counts. -/
structure Track where
  text : Option String := none
  time : Option Nat := none
deriving DecidableEq, Repr

structure History where
  messages : Track := {}
  commands : Track := {}
deriving DecidableEq, Repr

/-- A list of texts that are exempt: by their beginning, or by patterns. -/
inductive Whitelist
  | beginnings (entries : List String)
  | patterns (entries : List Regex.Compiled)
deriving DecidableEq, Repr

namespace Whitelist

/-- A whitelist of beginnings or patterns; none if a pattern is malformed. -/
def ofEntries? (library : Regex.Library) (regex : Bool) (entries : List String) : Option Whitelist :=
  if regex then
    (entries.mapM fun e => Regex.compileStandard? library ("(?i)".toList ++ e.toList)).map .patterns
  else some (.beginnings entries)

def contains : Whitelist → String → Bool
  | .beginnings entries, text => entries.any (beginsWith · text)
  | .patterns entries, text => entries.any fun re => re.isMatch text.toList == some true

@[simp] theorem contains_nil (text : String) : (beginnings []).contains text = false := rfl

end Whitelist

/-- The checks for spam, with the whitelists for messages ready for use. -/
structure SpamFilter where
  settings : SpamSettings
  delayWhitelist : Whitelist
  similarityWhitelist : Whitelist
deriving DecidableEq, Repr

namespace SpamFilter

/-- The checks with given settings. The patterns of the whitelists must be well formed. -/
def ofSettings (library : Regex.Library) (s : SpamSettings) : Except Error SpamFilter :=
  let whitelist (entries : List String) : Except Error Whitelist :=
    match Whitelist.ofEntries? library s.regexInWhitelist entries with
    | some w => .ok w
    | none => .error (.config "invalid anti-spam whitelist pattern")
  do return ⟨s, ← whitelist s.messages.delayWhitelist, ← whitelist s.messages.similarityWhitelist⟩

def prepared (f : SpamFilter) (text : String) : String :=
  prepare f.settings.stripSpecial f.settings.stripDuplicate text

end SpamFilter

/-- The seconds still to wait, begun ones included, if the delay since a time is not over. -/
def remaining? (last : Option Nat) (limits : SpamLimits) (now : Nat) : Option Nat :=
  last.bind fun last =>
    let elapsed := now - last
    if elapsed < second * limits.delaySeconds then some (limits.delaySeconds - elapsed / second)
    else none

def isSimilar (limits : SpamLimits) (previous : Option String) (text : String) : Bool :=
  previous.any fun p => limits.similarityPercentage < similarity text p

/-- The check for the delay: what is left to wait for a text that is not exempt, and the track after
it. The delay counts from the last text that did not come too soon, exempt or not. -/
def checkDelay (limits : SpamLimits) (exempt : Bool) (now : Nat) (t : Track) : Option Nat × Track :=
  match remaining? t.time limits now with
  | some wait => (if exempt then none else some wait, t)
  | none => (none, { t with time := some now })

namespace SpamFilter

/-- The check of a message. A message that is exempt from the second check is not compared and not
kept. -/
def checkMessage (f : SpamFilter) (message : String) (bypass : Bypass) (now : Nat) (t : Track) :
    Verdict × Track :=
  let limits := f.settings.messages
  let (wait, t) := checkDelay limits (bypass.delay || f.delayWhitelist.contains message) now t
  match wait with
  | some seconds => (.tooFast seconds, t)
  | none =>
    if limits.checksSimilarity &&
        !(bypass.similarity || f.similarityWhitelist.contains message) then
      let text := f.prepared message
      if isSimilar limits t.text text then (.similar, t)
      else (.allowed, { t with text := some text })
    else (.allowed, t)

/-- The name of a command, without the slashes before it. -/
def commandName (command : String) : String :=
  .ofList (((splitOn ' ' command.toList).headD []).dropWhile (· == '/'))

/-- A command without its name and its first argument, wherever else these occur, if it has further
arguments. -/
def withoutFirstArguments (command : String) : String :=
  let cs := command.toList
  match splitOn ' ' cs with
  | name :: first :: _ :: _ => .ofList (replaceText first [] (replaceText name [] cs))
  | _ => command

/-- The check of a command. A command that is exempt from the second check is kept all the same, unless
it is similar. -/
def checkCommand (f : SpamFilter) (command : String) (bypass : Bypass) (now : Nat) (t : Track) :
    Verdict × Track :=
  let limits := f.settings.commands
  let name := commandName command
  let (wait, t) := checkDelay limits (bypass.delay || limits.delayWhitelist.contains name) now t
  match wait with
  | some seconds => (.tooFast seconds, t)
  | none =>
    if limits.checksSimilarity then
      let text := f.prepared
        (if f.settings.ignoreFirstArguments then withoutFirstArguments command else command)
      if isSimilar limits t.text text then
        (if bypass.similarity || limits.similarityWhitelist.contains name then .allowed
          else .similar, t)
      else (.allowed, { t with text := some text })
    else (.allowed, t)

end SpamFilter

inductive Sent
  | message (text : String)
  | command (text : String)
deriving DecidableEq, Repr

def SpamFilter.check (f : SpamFilter) (sent : Sent) (bypass : Bypass) (now : Nat) (h : History) :
    Verdict × History :=
  match sent with
  | .message text =>
    let (v, t) := f.checkMessage text bypass now h.messages
    (v, { h with messages := t })
  | .command text =>
    let (v, t) := f.checkCommand text bypass now h.commands
    (v, { h with commands := t })

def Verdict.entry? (sent : Sent) : Verdict → Option LogEntry
  | .allowed => none
  | .tooFast seconds =>
    let wait := ("wait_secs", toString seconds)
    match sent with
    | .message text => some ⟨.debug, "Message sent too fast", [("message", text), wait]⟩
    | .command text => some ⟨.debug, "Command sent too fast", [("command", text), wait]⟩
  | .similar =>
    match sent with
    | .message text =>
      some ⟨.debug, "Message too similar to the previous one", [("message", text)]⟩
    | .command text =>
      some ⟨.debug, "Command too similar to the previous one", [("command", text)]⟩

theorem second_pos : 0 < second := by decide

@[simp] theorem remaining?_none (limits : SpamLimits) (now : Nat) :
    remaining? none limits now = none := rfl

theorem remaining?_le {last : Option Nat} {limits : SpamLimits} {now wait : Nat}
    (h : remaining? last limits now = some wait) : wait ≤ limits.delaySeconds := by
  obtain ⟨s, -, h⟩ := Option.bind_eq_some_iff.1 h
  obtain ⟨-, h⟩ := Option.ite_none_right_eq_some.1 h
  rw [← Option.some.inj h]
  exact Nat.sub_le ..

@[simp] theorem checkDelay_text (limits : SpamLimits) (exempt : Bool) (now : Nat) (t : Track) :
    (checkDelay limits exempt now t).2.text = t.text := by
  simp only [checkDelay]; split <;> rfl

end Moderation.Filter
