import Moderation.Filter.Settings
import Moderation.Text.Basic

/-!
Corrections of grammar: a capital at the start of each sentence, and a full stop at the end of a
message. Web addresses are left alone.
-/
namespace Moderation.Filter
open Moderation.Unicode Moderation.Text

/-- Whether what follows the beginning of an address is a host: no blank in it, and a dot after at
least one character and before at least two more. `first` asks this of the first dot. -/
def isHost (first : Bool) (cs : List Char) : Bool :=
  cs.all (!isBlank ·) &&
    if first then
      let host := cs.takeWhile (· != '.')
      !host.isEmpty && host.length + 3 ≤ cs.length
    else ((cs.drop 1).reverse.drop 2).contains '.'

def isDomain (word : List Char) : Bool :=
  let www := "www.".toList
  let scheme := (after? "https://".toList word).or (after? "http://".toList word)
  match scheme with
  | some rest =>
    match after? www rest with
    | some host => isHost true host
    | none => !"www".toList.isPrefixOf rest && isHost true rest
  | none =>
    match after? www word with
    | some host => isHost false host
    | none => false

/-- The sentences of a text. A sentence ends at a blank after a mark that ends sentences; that blank
belongs to no sentence. `previous` is the character before the ones ahead. -/
def sentencesAfter (previous : Option Char) : List Char → List (List Char)
  | [] => [[]]
  | c :: r =>
    let more := sentencesAfter (some c) r
    if isBlank c && (previous == some '!' || previous == some '?' || previous == some '.') then
      [] :: more
    else extendFirst c more

/-- A sentence with a capital, unless it starts with a web address. -/
def capitalizeSentence (sentence : List Char) : List Char :=
  if isDomain ((words sentence).headD []) then sentence
  else match sentence with
    | [] => []
    | c :: r => upper c ++ r

/-- A text with a capital at the start of each sentence. -/
def capitalize (cs : List Char) : List Char :=
  trim (join [' '] ((sentencesAfter none cs).map capitalizeSentence))

/-- A text with a full stop after its last letter, unless it ends in a web address. -/
def insertDot (cs : List Char) : List Char :=
  if cs.getLast?.any isAsciiLetter && !isDomain ((words cs).getLastD []) then cs ++ ['.'] else cs

def GrammarRule.applies (r : GrammarRule) (cs : List Char) : Bool :=
  r.enabled && r.minLength ≤ cs.length

/-- A text corrected: capitals first, then the full stop. -/
def GrammarSettings.correct (s : GrammarSettings) (cs : List Char) : List Char :=
  let cs := if s.capitalize.applies cs then Filter.capitalize cs else cs
  if s.insertDot.applies cs then Filter.insertDot cs else cs

@[simp] theorem insertDot_nil : insertDot [] = [] := rfl
@[simp] theorem capitalize_nil : capitalize [] = [] := rfl

/-- A full stop is added at most once. -/
theorem insertDot_insertDot (cs : List Char) : insertDot (insertDot cs) = insertDot cs := by
  by_cases h : (cs.getLast?.any isAsciiLetter && !isDomain ((words cs).getLastD [])) = true
  · have h' : insertDot cs = cs ++ ['.'] := by simp only [insertDot, h, if_true]
    rw [h']
    have : isAsciiLetter '.' = false := rfl
    simp [insertDot, this]
  · have h' : insertDot cs = cs := by simp only [insertDot, h]; rfl
    rw [h', h']

@[simp] theorem GrammarSettings.correct_default (cs : List Char) :
    ({} : GrammarSettings).correct cs = cs := rfl

example : isDomain "http://example.com".toList = true := by decide +kernel
example : isDomain "http://www.example.com".toList = true := by decide +kernel
example : isDomain "http://.com".toList = false := by decide +kernel
example : isDomain "www.a.b.co".toList = true := by decide +kernel

end Moderation.Filter
