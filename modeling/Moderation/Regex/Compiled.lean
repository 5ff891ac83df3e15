import Moderation.Regex.Backtrack
import Moderation.Regex.Template

/-!
Compiled patterns: which of the two kinds a pattern is, the search for its matches, and replacement.
-/
namespace Moderation.Regex
open Moderation.Unicode

/-- A pattern ready to be searched for. `budget` is what an extended search may spend on going
back. -/
structure Compiled where
  root : Node
  names : List (String × Nat)
  extended : Bool
  budget : Nat
deriving DecidableEq, Repr

def occurs (part : List Char) : List Char → Bool
  | [] => part.isEmpty
  | c :: r => part.isPrefixOf (c :: r) || occurs part r

/-- The signs of an extended pattern: look-around, atomic groups and possessive repetitions. -/
def extendedSigns : List String :=
  ["(?=", "(?!", "(?<=", "(?<!", "(?>", "*+", "++", "?+", "\x7d+"]

/-- Whether a backslash stands before a digit other than zero. -/
def hasReference : List Char → Bool
  | '\\' :: d :: r => ('1' ≤ d && d ≤ '9') || hasReference (d :: r)
  | _ :: r => hasReference r
  | [] => false

def isExtended (pattern : List Char) : Bool :=
  extendedSigns.any (fun s => occurs s.toList pattern) || hasReference pattern

/-- What a library for patterns decides beyond what is written out here: the patterns that are too large
or nested too deeply for it, and how it reads properties of characters that the tables have not. -/
structure Library where
  refuses : List Char → Bool := fun _ => false
  reads : List Char → Option (Node × List (String × Nat)) := fun _ => none

def namesProperty (pattern : List Char) : Bool :=
  occurs "\\p".toList pattern || occurs "\\P".toList pattern

/-- Read a pattern, with the help of a library if it names a property. -/
def Library.node? (library : Library) (read : Option (Node × List (String × Nat)))
    (pattern : List Char) : Option (Node × List (String × Nat)) :=
  if library.refuses pattern then none
  else read.or (if namesProperty pattern then library.reads pattern else none)

/-- Compile a standard pattern, unless it is malformed. Its search never goes back. -/
def compileStandard? (library : Library) (pattern : List Char) : Option Compiled :=
  (library.node? ((readStandard pattern).map fun (node, _, names) => (node, names)) pattern).map
    fun (node, names) => ⟨node, names, false, 0⟩

/-- Compile a pattern of either kind, unless it is malformed. -/
def compile? (library : Library) (budget : Nat) (pattern : List Char) : Option Compiled :=
  if isExtended pattern then
    (library.node? ((readExtended pattern).map fun (node, _, names) => (node, names)) pattern).map
      fun (node, names) =>
        let refs := node.references
        ⟨if node.isHard refs then node.plan refs false else .once node, names, true, budget⟩
  else compileStandard? library pattern

/-- What comes of the use of a pattern: a value, or none because the search was given up, because the
program crashes, or because it never ends. -/
inductive Result (α : Type)
  | done (a : α)
  | exhausted
  | crash
  | endless
deriving DecidableEq, Repr

def Result.map {α β : Type} (f : α → β) : Result α → Result β
  | .done a => .done (f a)
  | .exhausted => .exhausted
  | .crash => .crash
  | .endless => .endless

theorem Result.map_eq_done_iff {α β : Type} {f : α → β} {r : Result α} {b : β} :
    r.map f = .done b ↔ ∃ a, r = .done a ∧ f a = b := by
  cases r <;> simp [map]

theorem Result.map_eq_crash_iff {α β : Type} {f : α → β} {r : Result α} :
    r.map f = .crash ↔ r = .crash := by
  cases r <;> simp [map]

def Result.value? {α : Type} : Result α → Option α
  | .done a => some a
  | _ => none

/-- A use of a pattern: how often the clock is looked at on its way, and what comes of it. -/
structure Use (α : Type) where
  looks : Nat
  result : Result α
deriving DecidableEq, Repr

def Use.map {α β : Type} (f : α → β) (use : Use α) : Use β := ⟨use.looks, use.result.map f⟩

/-- The matches in a text from left to right, and how the walk over them ends. -/
inductive Walk
  | done
  | exhausted
  | endless
  | found (m : Cursor) (later : Walk)

namespace Walk

/-- The matches of a walk that comes to the end of a text. -/
def matches? : Walk → Option (List Cursor)
  | .done => some []
  | .exhausted => none
  | .endless => none
  | .found m later => later.matches?.map (m :: ·)

/-- A text from place `at_` on, with each match replaced. The clock is looked at for each match and once
in the end. A match that begins before the end of the one before it, or for which nothing can be put in,
makes the program crash. -/
def replace (expand : Cursor → Option (List Char)) : (at_ : Nat) → List Char → Walk → Use (List Char)
  | _, text, .done => ⟨1, .done text⟩
  | _, _, .exhausted => ⟨1, .exhausted⟩
  | _, _, .endless => ⟨1, .endless⟩
  | i, text, .found m later =>
    match expand m with
    | none => ⟨1, .crash⟩
    | some inserted =>
      if m.first < i then ⟨1, .crash⟩
      else
        let rest := later.replace expand m.index (text.drop (m.index - i))
        ⟨rest.looks + 1, rest.result.map fun out => text.take (m.first - i) ++ inserted ++ out⟩

end Walk

namespace Compiled

/-- Search from a cursor on. The match ends at the cursor found and begins at its `first`. -/
def search (re : Compiled) (c : Cursor) : Outcome :=
  let c := { c with slots := [], origin := c.index }
  let fuel := c.rest.length + 1
  let plain (root : Node) : Outcome :=
    match root.findFirst fuel c with
    | some d => .found d re.budget
    | none => .failed re.budget
  if !re.extended then plain re.root
  else match re.root with
    | .once root => plain root
    | root => root.runFirst fuel c re.budget

/-- Whether a text has a match; `none` if the search was given up. -/
def isMatch (re : Compiled) (text : List Char) : Option Bool :=
  match re.search (.start text) with
  | .found .. => some true
  | .failed _ => some false
  | .exhausted => none

/-- The search for a match as a use of the pattern. The clock is looked at when it has come to an end. -/
def matchUse (re : Compiled) (text : List Char) : Use Bool :=
  match re.isMatch text with
  | some found => ⟨1, .done found⟩
  | none => ⟨0, .exhausted⟩

/-- The matches at or after a cursor from left to right. An empty match directly after the match
before it, which ended at `last`, is passed over. A match that does not lead on is found again and
again. -/
def walkFrom (re : Compiled) : (fuel : Nat) → (last : Option Nat) → Cursor → Walk
  | 0, _, _ => .done
  | fuel + 1, last, c =>
    match re.search c with
    | .exhausted => .exhausted
    | .failed _ => .done
    | .found m _ =>
      if m.first = m.index then
        let more := if m.rest.isEmpty then .done else re.walkFrom fuel (some m.index) m.forward
        if last = some m.index then more else .found m more
      else if m.index ≤ c.index then .found m (.found m .endless)
      else .found m (re.walkFrom fuel (some m.index) m)

def walk (re : Compiled) (text : List Char) : Walk :=
  re.walkFrom (text.length + 1) none (.start text)

/-- All matches in a text from left to right; `none` if the walk does not come to an end. -/
def allMatches (re : Compiled) (text : List Char) : Option (List Cursor) := (re.walk text).matches?

def replaceAll (re : Compiled) (template text : List Char) : Use (List Char) :=
  (re.walk text).replace (expandTemplate? re.extended re.names template) 0 text

end Compiled

end Moderation.Regex
