import Moderation.Log
import Moderation.Rule.Description
import Moderation.Rule.Written

/-!
Files of rules. A line that names a pattern opens a rule, and the directives on the lines after it
belong to that rule. Blank lines and comments say nothing. The first line that is at fault ends the
reading.
-/
namespace Moderation
open Moderation.Text

/-- A line that says something, with its number and without the blanks at its ends. -/
structure Line where
  number : Nat
  text : String
deriving DecidableEq, Repr

def saysNothing (text : String) : Bool := text == "" || beginsWith "#" text

/-- The lines of a file that say something. -/
def linesOf (source : String) : List Line :=
  let lines := (splitOn '\n' source.toList).map fun l => String.ofList (trim l)
  (lines.mapIdx fun i text => (⟨i + 1, text⟩ : Line)).filter fun l => !saysNothing l.text

/-- A rule to which directives may still be added, and the number of the line that opened it. -/
structure OpenRule where
  draft : Draft
  line : Nat
deriving DecidableEq, Repr

/-- How far the reading of a file has come: the rules that are complete, and the one that is open. -/
structure Progress where
  done : List Rule := []
  current : Option OpenRule := none
deriving DecidableEq, Repr

namespace Progress

/-- Complete the rule that is open. No rule of a file is described like another one. -/
def close (c : Category) (p : Progress) : Except LoadError Progress :=
  match p.current with
  | none => .ok p
  | some o =>
    let rule := o.draft.build
    if p.done.any fun r => r.describe == rule.describe then
      .error (.duplicateRule ⟨c.fileName, o.line⟩ rule.short)
    else .ok ⟨p.done ++ [rule], none⟩

/-- The cause of failure for a line that is no directive of a rule. -/
def refuse (place : Place) (r : Draft) (text : String) : Refusal → LoadError
  | .malformed reason => .malformed place text reason
  | .unknownHandler name => .unknownHandler place name
  | .unknown =>
    if r.isPacketRule then .unknownPacketOperator place text r.build.short
    else .unknownOperator place text r.build.short

/-- A rule with the directive of a line. -/
def direct (c : Category) (handlers : Registry) (r : Draft) (l : Line) :
    Except LoadError Draft :=
  let place : Place := ⟨c.fileName, l.number⟩
  let read := if r.isPacketRule then Directive.ofPacketText l.text
    else Directive.ofText c handlers l.text
  match read with
  | .error e => .error (refuse place r l.text e)
  | .ok d =>
    match r.add? d with
    | some r => .ok r
    | none => .error (.duplicateDirective place d.title r.build.short)

def opening : String := "match "

def step (c : Category) (handlers : Registry) (p : Progress) (l : Line) :
    Except LoadError Progress :=
  match after opening l.text with
  | some pattern => do
    let p ← p.close c
    return { p with current := some ⟨Draft.opened c pattern, l.number⟩ }
  | none =>
    match p.current with
    | none => .error (.operatorOutsideRule ⟨c.fileName, l.number⟩ l.text)
    | some o => do
      let draft ← direct c handlers o.draft l
      return { p with current := some { o with draft } }

def steps (c : Category) (handlers : Registry) (p : Progress) (ls : List Line) :
    Except LoadError Progress :=
  ls.foldlM (step c handlers) p

/-- What is logged about a line: that one of its words is out of use. -/
def notice? (c : Category) (p : Progress) (l : Line) : Option LogEntry :=
  match after opening l.text, p.current with
  | none, some o =>
    if !o.draft.isPacketRule && beginsWith Directive.formerStrip l.text then
      some ⟨.warn, "Operator 'strip' is deprecated and replaced by 'before strip'",
        [("rule", o.draft.build.short), ("file", c.fileName)]⟩
    else none
  | _, _ => none

/-- What is logged about lines up to the first one that is at fault, that one included. -/
def notices (c : Category) (handlers : Registry) : Progress → List Line → List LogEntry
  | _, [] => []
  | p, l :: ls =>
    (notice? c p l).toList ++
      match step c handlers p l with
      | .ok p => notices c handlers p ls
      | .error _ => []

end Progress

/-- The rules of a file in their order. -/
def readRules (c : Category) (handlers : Registry) (source : String) :
    Except LoadError (List Rule) := do
  let p ← Progress.steps c handlers {} (linesOf source)
  return (← p.close c).done

def readNotices (c : Category) (handlers : Registry) (source : String) : List LogEntry :=
  Progress.notices c handlers {} (linesOf source)

@[simp] theorem steps_nil (c : Category) (handlers : Registry) (p : Progress) :
    p.steps c handlers [] = .ok p := rfl

@[simp] theorem steps_cons (c : Category) (handlers : Registry) (p : Progress) (l : Line)
    (ls : List Line) :
    p.steps c handlers (l :: ls) = (p.step c handlers l).bind fun q => q.steps c handlers ls := rfl

theorem readRules_of_no_lines {c : Category} {handlers : Registry} {source : String}
    (h : linesOf source = []) : readRules c handlers source = .ok [] := by
  simp only [readRules, h]
  rfl

end Moderation
