import Moderation.Filter.Settings
import Moderation.Text.Basic
import Moderation.Log

/-!
Capitals: how many there are in a message, and the message with them lowered.
-/
namespace Moderation.Filter
open Moderation.Unicode Moderation.Text

/-- Whether a word is in a list, up to the case of ASCII letters. -/
def isListed (list : List String) (word : List Char) : Bool :=
  list.any fun entry => equalIgnoringAsciiCase entry.toList word

/-- For each character whether it is a capital. The words of the whitelist count in their small
form. -/
def capsFlags (whitelist : List String) (message : List Char) : List Bool :=
  let words := (splitOn ' ' message).map fun w => if isListed whitelist w then lowerText w else w
  (join [' '] words).map isUpper

/-- The share of capitals in percent, rounded down. -/
def capsPercentage (flags : List Bool) : Nat :=
  if flags.isEmpty then 0 else 100 * flags.count true / flags.length

/-- The length of the longest run of capitals, where `run` of them go before and `longest` is the
longest run so far. -/
def longestRun (longest run : Nat) : List Bool → Nat
  | [] => longest
  | true :: r => longestRun (max longest (run + 1)) (run + 1) r
  | false :: r => longestRun longest 0 r

def capsInARow (flags : List Bool) : Nat := longestRun 0 0 flags

namespace CapsSettings

def violates (s : CapsSettings) (message : List Char) : Bool :=
  let flags := capsFlags s.whitelist message
  s.enabled && s.minLength ≤ message.length &&
    (s.minPercentage ≤ capsPercentage flags || s.minInARow ≤ capsInARow flags)

/-- Whether a word is kept as it is typed. -/
def keeps (s : CapsSettings) (usernames : List String) (word : List Char) : Bool :=
  isListed s.whitelist word || (s.ignoreUsernames && isListed usernames word)

/-- A word lowered; at the start of a sentence its first character stays. -/
def lowerWord (start : Bool) (word : List Char) : List Char :=
  match start, word with
  | true, c :: r => c :: lowerText r
  | true, [] => []
  | false, w => lowerText w

/-- Words lowered from left to right. A sentence starts after a word that ends in a full stop or an
exclamation mark; a word that is kept starts none. -/
def lowerWords (s : CapsSettings) (usernames : List String) :
    (start : Bool) → List (List Char) → List (List Char)
  | _, [] => []
  | start, w :: ws =>
    if s.keeps usernames w then w :: s.lowerWords usernames false ws
    else
      let low := lowerWord start w
      low :: s.lowerWords usernames (low.getLast? == some '.' || low.getLast? == some '!') ws

def lower (s : CapsSettings) (usernames : List String) (message : List Char) : List Char :=
  join [' '] (s.lowerWords usernames true (splitOn ' ' message))

/-- The message lowered, if it has too many capitals and lowering changes it. -/
def lowered? (s : CapsSettings) (usernames : List String) (message : String) : Option String :=
  let cs := message.toList
  if s.violates cs then
    let low := s.lower usernames cs
    if low = cs then none else some (.ofList low)
  else none

def entry (message lowered : String) : LogEntry :=
  ⟨.debug, "Lowered caps", [("before", message), ("after", lowered)]⟩

end CapsSettings

@[simp] theorem capsFlags_nil (whitelist : List String) : (capsFlags whitelist []).length = 0 := by
  simp only [capsFlags, splitOn, splitWhere_nil, List.map_cons, List.map_nil, join_singleton]
  split <;> simp

@[simp] theorem capsInARow_nil : capsInARow [] = 0 := rfl

@[simp] theorem length_lowerWords (s : CapsSettings) (usernames : List String) (start : Bool)
    (ws : List (List Char)) : (s.lowerWords usernames start ws).length = ws.length := by
  induction ws generalizing start with
  | nil => simp [CapsSettings.lowerWords]
  | cons w ws ih => simp only [CapsSettings.lowerWords]; split <;> simp [ih]

end Moderation.Filter
