import Moderation.Engine.Settings
import Moderation.Engine.Work
import Moderation.Text.Color

/-!
Patterns under guard: they are compiled once, they have a budget, and a pattern that fails is reported
and then counts as one that does not match.
-/
namespace Moderation.Engine
open Moderation.Text

/-- How a replacement treats the pattern and the text: both without formatting codes, only the
pattern without them, or both as they are. Only in the last case does the case of letters count. -/
inductive Mode
  | normalized
  | keepColors
  | exact
deriving DecidableEq, Repr

/-- The pattern that is compiled for a pattern as it is written. -/
def Mode.source : Mode → String → String
  | .normalized, pattern => "(?i)" ++ stripColors pattern
  | .keepColors, pattern => "(?i)" ++ stripColors pattern
  | .exact, pattern => pattern

def Mode.subject : Mode → String → String
  | .normalized, text => stripColors text
  | .keepColors, text => text
  | .exact, text => text

/-- What a pattern may use: its time in milliseconds, and how often its search may go back; and the library
that reads it. -/
structure Budget where
  timeout : Nat
  backtracks : Nat
  library : Regex.Library := {}

namespace Budget

/-- Compile a pattern, or take it from the cache. A malformed pattern is not kept. -/
def compile (b : Budget) (source : String) : Work (Except Fault Regex.Compiled) := fun state =>
  match state.compiled.lookup source with
  | some re => ⟨.ok re, state, []⟩
  | none =>
    match Regex.compile? b.library b.backtracks source.toList with
    | some re => ⟨.ok re, { state with compiled := (source, re) :: state.compiled }, []⟩
    | none => ⟨.error .malformed, state, []⟩

/-- Whether the clock is in time at so many looks. Without any time it never is. -/
def inTime (b : Budget) (looks : Looks) (n : Nat) : Bool :=
  b.timeout != 0 && looks.all fun inTime => n ≤ inTime

/-- What a use of a pattern comes to under the clock, which is looked at once more before it. A use that
never ends is over time in the end. -/
def settle {α : Type} (b : Budget) (looks : Looks) (use : Regex.Use α) : Except Failure α :=
  if b.inTime looks (use.looks + 1) then
    match use.result with
    | .done a => .ok a
    | .exhausted => .error (.fault .exhausted)
    | .crash => .error .crash
    | .endless => .error (.fault .timeout)
  else .error (.fault .timeout)

def run {α : Type} (b : Budget) (looks : Looks) (source : String)
    (use : Regex.Compiled → Regex.Use α) : Work (Except Failure α) := do
  match ← b.compile source with
  | .error fault => return .error (.fault fault)
  | .ok re => return b.settle looks (use re)

def tryMatch (b : Budget) (looks : Looks) (pattern text : String) : Work (Except Failure Bool) :=
  b.run looks (Mode.normalized.source pattern) fun re =>
    re.matchUse (Mode.normalized.subject text).toList

def tryReplace (b : Budget) (looks : Looks) (mode : Mode) (pattern text replacement : String) :
    Work (Except Failure String) :=
  b.run looks (mode.source pattern) fun re =>
    (re.replaceAll replacement.toList (mode.subject text).toList).map String.ofList

def frame : String := "*----------------------------------------------*"

def headline (b : Budget) (pattern : String) : Fault → String
  | .malformed => "Malformed regex: '" ++ pattern ++ "'"
  | _ => "Regex timed out after " ++ toString b.timeout ++ "ms!"

def auditEntry (pattern text : String) : Fault → AuditEntry
  | .malformed =>
    ⟨.malformedRegex, none, "Malformed regex: " ++ Fault.reason ++ "\nRegex: " ++ pattern⟩
  | _ =>
    ⟨.regexTimeout, none, "Regex check timed out (bad regex?)!\nString checked: " ++ text ++
      "\nRegex: " ++ pattern⟩

def faultReport (b : Budget) (pattern text : String) (fault : Fault) : List Effect :=
  let warning (text : String) (fields : List (String × String)) : Effect :=
    .log ⟨.warn, text, fields⟩
  [.count (.regexFault fault), warning frame [],
    warning (b.headline pattern fault) [("fault", fault.message)],
    warning ("REG EX: " ++ pattern) [], warning ("STRING: " ++ text) [], warning frame [],
    .audit (auditEntry pattern text fault)]

def report (b : Budget) (pattern text : String) : Failure → Work Unit
  | .fault fault => .emitAll (b.faultReport pattern text fault)
  | .crash => .emit .crash

/-- The value of work that may have failed; a failure is reported and gives the value `otherwise`. -/
def orReport {α : Type} (b : Budget) (pattern text : String) (otherwise : α)
    (w : Work (Except Failure α)) : Work α := do
  match ← w with
  | .ok a => return a
  | .error failure =>
    b.report pattern text failure
    return otherwise

/-- Whether a text has a match; a pattern that fails has none. -/
def isMatch (b : Budget) (looks : Looks) (pattern text : String) : Work Bool :=
  b.orReport pattern text false (b.tryMatch looks pattern text)

/-- A text with all matches replaced; a pattern that fails leaves the text as it was. -/
def replace (b : Budget) (looks : Looks) (mode : Mode) (pattern text replacement : String) :
    Work String :=
  b.orReport pattern text text (b.tryReplace looks mode pattern text replacement)

@[simp] theorem compile_of_mem {b : Budget} {source : String} {re : Regex.Compiled} {state : State}
    (h : state.compiled.lookup source = some re) : b.compile source state = ⟨.ok re, state, []⟩ := by
  simp [compile, h]

@[simp] theorem effects_compile (b : Budget) (source : String) (state : State) :
    (b.compile source state).effects = [] := by
  unfold compile
  split
  · rfl
  · split <;> rfl

/-- Once its pattern is compiled, a use comes to what it comes to under the clock. -/
theorem run_of_compiles {α : Type} {b : Budget} {source : String} {state : State}
    {re : Regex.Compiled} (h : (b.compile source state).value = .ok re) (looks : Looks)
    (use : Regex.Compiled → Regex.Use α) :
    b.run looks source use state = ⟨b.settle looks (use re), (b.compile source state).state, []⟩ := by
  simp [run, h]

theorem result_of_settle {α : Type} {b : Budget} {looks : Looks} {use : Regex.Use α} {a : α}
    (h : b.settle looks use = .ok a) : use.result = .done a := by
  unfold settle at h
  split at h
  · cases hu : use.result <;> simp_all
  · cases h

/-- Only a use that crashes makes the program crash. -/
theorem result_of_settle_crash {α : Type} {b : Budget} {looks : Looks} {use : Regex.Use α}
    (h : b.settle looks use = .error .crash) : use.result = .crash := by
  unfold settle at h
  split at h
  · cases hu : use.result <;> simp_all
  · cases h

/-- What is made of the value of a use needs no more time. -/
theorem settle_map {α β : Type} {b : Budget} {looks : Looks} {use : Regex.Use α} {f : α → β} {a : α}
    (h : b.settle looks use = .ok a) : b.settle looks (use.map f) = .ok (f a) := by
  have hresult := result_of_settle h
  unfold settle at h ⊢
  split at h
  case isTrue htime => simp [Regex.Use.map, htime, hresult, Regex.Result.map]
  case isFalse => cases h

theorem settle_of_timeout_zero {α : Type} {b : Budget} (h : b.timeout = 0) (looks : Looks)
    (use : Regex.Use α) : b.settle looks use = .error (.fault .timeout) := by
  simp [settle, inTime, h]

end Budget

end Moderation.Engine
