import Moderation.Handler.Registry
import Moderation.Number.Decimal
import Moderation.Rule.Directive

/-!
Directives as they are written: a few words, and after them an argument up to the end of the line.
-/
namespace Moderation
open Moderation.Text

/-- Why a line is no directive. -/
inductive Refusal
  | unknown
  | malformed (reason : String)
  | unknownHandler (name : String)
deriving DecidableEq, Repr

/-- The parts of a list of alternatives. Empty ones at its end do not count, but one part stays. -/
def dropEmptyEnd (parts : List String) : List String :=
  match (parts.reverse.dropWhile (· == "")).reverse with
  | [] => parts.take 1
  | kept => kept

def alternatives (text : String) : List String := dropEmptyEnd (parts '|' text)

/-- Two words with a space between them; the second goes on to the end, and neither is empty. -/
def twoWords? (text : String) : Option (String × String) :=
  (cutAtSpace text).filter fun (a, b) => a != "" && b != ""

def amount? (text : String) : Option Binary64 :=
  (Binary64.ofText? (trim text.toList)).filter Binary64.isFiniteNonNegative

namespace Directive

def bare : List (String × Directive) :=
  [("then deny", .deny), ("then log", .log), ("then replace", .replace [""]), ("then kick", .kick "")]

/-- The directive to strip a text, as it was written before. -/
def formerStrip : String := "strip "

def readReplaceBefore (text : String) : Except Refusal Directive :=
  match dropEmptyEnd (partsAround " with " text) with
  | [pattern, replacement] => .ok (.replaceBefore pattern replacement)
  | _ => .error (.malformed "expected 'before replace <regex> with <replacement>'")

/-- A kind of events that is ignored. The rules of a category are there for its own kind. -/
def readIgnoreEvent (c : Category) (text : String) : Except Refusal Directive :=
  match EventKind.ofText? text with
  | none => .error (.malformed (EventKind.unknownMessage text))
  | some kind =>
    if c.eventKind? = some kind then
      .error (.malformed
        ("rules in " ++ c.fileName ++ " always apply to " ++ kind.title ++ " events"))
    else .ok (.ignoreEvent kind)

def readIgnoreModes (text : String) : Except Refusal Directive :=
  match (alternatives text).mapM GameMode.ofText with
  | .ok modes => .ok (.ignoreModes modes)
  | .error reason => .error (.malformed reason)

def readNotify (text : String) : Except Refusal Directive :=
  match twoWords? text with
  | some (permission, message) => .ok (.notify permission message)
  | none => .error (.malformed "expected 'then notify <permission> <message>'")

def readFine (text : String) : Except Refusal Directive :=
  match amount? text with
  | some x => .ok (.fine x)
  | none => .error (.malformed "fine must be a non-negative number")

def readHandle (handlers : Registry) (name : String) : Except Refusal Directive :=
  match handlers.find? name with
  | some h => .ok (.handle h)
  | none => .error (.unknownHandler name)

/-- The directives that have an argument: their words, and how the argument is read. None of the
words are the beginning of others. -/
def withArgument (c : Category) (handlers : Registry) :
    List (String × (String → Except Refusal Directive)) :=
  [(formerStrip, fun s => .ok (.stripBefore s)),
   ("before strip ", fun s => .ok (.stripBefore s)),
   ("before replace ", readReplaceBefore),
   ("id ", fun s => .ok (.id s)),
   ("ignore string ", fun s => .ok (.ignoreMessage s)),
   ("ignore event ", readIgnoreEvent c),
   ("ignore perm ", fun s => .ok (.bypass s)),
   ("then rewrite ", fun s => .ok (.rewrite (alternatives s))),
   ("ignore gamemode ", readIgnoreModes),
   ("then replace ", fun s => .ok (.replace (alternatives s))),
   ("then console ", fun s => .ok (.run (alternatives s))),
   ("then warn ", fun s => .ok (.warn s)),
   ("then notify ", readNotify),
   ("then fine ", readFine),
   ("then kick ", fun s => .ok (.kick s)),
   ("handle as ", readHandle handlers)]

/-- What the first words that a text begins with make of its rest. -/
def readAfter (readers : List (String × (String → Except Refusal Directive))) (text : String) :
    Except Refusal Directive :=
  match readers.findSome? fun (words, read) => (after words text).map read with
  | some result => result
  | none => .error .unknown

def ofText (c : Category) (handlers : Registry) (text : String) : Except Refusal Directive :=
  match bare.lookup text with
  | some d => .ok d
  | none => readAfter (withArgument c handlers) text

/-- The directives of rules for outgoing texts that have no argument. -/
def barePacket : List (String × PacketDirective) := [("then deny", .deny), ("dont verbose", .quiet)]

def readRewriteIn (text : String) : Except Refusal Directive :=
  match twoWords? text with
  | some (world, message) => .ok (.packet (.rewriteIn world message))
  | none => .error (.malformed
      "expected 'then rewritein <world> <message>', use 'none' as the message to hide it")

def ofPacketText (text : String) : Except Refusal Directive :=
  match barePacket.lookup text with
  | some d => .ok (.packet d)
  | none => readAfter
      [("then replace ", fun s => .ok (.packet (.replace s))),
       ("then rewrite ", fun s => .ok (.packet (.rewrite s))),
       ("then rewritein ", readRewriteIn)] text

end Directive

@[simp] theorem dropEmptyEnd_nil : dropEmptyEnd [] = [] := rfl

/-- Only the empty text has an empty alternative at the end. -/
theorem dropEmptyEnd_singleton (s : String) : dropEmptyEnd [s] = [s] := by
  by_cases h : s = "" <;> simp [dropEmptyEnd, List.dropWhile, h]

end Moderation
