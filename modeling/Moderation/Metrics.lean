import Moderation.Fault
import Moderation.Number.Binary64

/-!
Counters of what the engine does, as totals and as labelled series.
-/
namespace Moderation

inductive Counter
  | evaluation (kind : String)
  | ruleMatch (category : String)
  | cancellation
  | packetCancellation
  | regexFault (fault : Fault)
deriving DecidableEq, Repr

namespace Counter

def series : Counter → String
  | .evaluation _ => "chatward_evaluations_total"
  | .ruleMatch _ => "chatward_rule_matches_total"
  | .cancellation => "chatward_cancellations_total"
  | .packetCancellation => "chatward_packet_cancellations_total"
  | .regexFault _ => "chatward_regex_faults_total"

def label : Counter → Option (String × String)
  | .evaluation kind => some ("kind", kind)
  | .ruleMatch category => some ("category", category)
  | .cancellation => none
  | .packetCancellation => none
  | .regexFault fault => some ("type", fault.label)

def title (c : Counter) : String :=
  c.series ++ "\x7b" ++
    (match c.label with
    | some (name, value) => name ++ "=" ++ value
    | none => "") ++ "\x7d"

def descriptions : List (String × String) :=
  [("chatward_evaluations_total", "Total number of texts evaluated by kind"),
   ("chatward_rule_matches_total", "Total number of rule matches by category"),
   ("chatward_cancellations_total", "Total number of cancelled actions"),
   ("chatward_packet_cancellations_total", "Total number of suppressed outgoing packets"),
   ("chatward_regex_faults_total", "Total number of regex faults by type")]

theorem series_mem_descriptions (c : Counter) : c.series ∈ descriptions.map (·.1) := by
  cases c <;> simp [series, descriptions]

end Counter

/-- The totals of the series. -/
structure Totals where
  evaluations : Nat := 0
  ruleMatches : Nat := 0
  cancellations : Nat := 0
  packetCancellations : Nat := 0
  regexFaults : Nat := 0
deriving DecidableEq, Repr

namespace Totals

def add (t : Totals) : Counter → Totals
  | .evaluation _ => { t with evaluations := t.evaluations + 1 }
  | .ruleMatch _ => { t with ruleMatches := t.ruleMatches + 1 }
  | .cancellation => { t with cancellations := t.cancellations + 1 }
  | .packetCancellation => { t with packetCancellations := t.packetCancellations + 1 }
  | .regexFault _ => { t with regexFaults := t.regexFaults + 1 }

/-- The share of evaluations that were cancelled. Both totals are rounded before they are divided. -/
def cancellationRate (t : Totals) : Binary64 :=
  if t.evaluations = 0 then .zero false
  else (Binary64.ofNat t.cancellations).quotient (.ofNat t.evaluations)

@[simp] theorem cancellationRate_default : ({} : Totals).cancellationRate = .zero false := rfl

end Totals

def addCount (c : Counter) : List (Counter × Nat) → List (Counter × Nat)
  | [] => [(c, 1)]
  | (d, n) :: r => if d = c then (d, n + 1) :: r else (d, n) :: addCount c r

end Moderation
