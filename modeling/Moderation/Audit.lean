/-!
The audit trail: what is kept about violations of rules and about patterns that fail.
-/
namespace Moderation

inductive AuditKind
  | ruleViolation
  | handlerFile (target : String)
  | regexTimeout
  | malformedRegex
deriving DecidableEq, Repr

namespace AuditKind

def rulesPath : String := "logs/rules.txt"

def errorPath : String := "errors/errors.txt"

/-- The file that entries of a kind are written to. -/
def target : AuditKind → String
  | .ruleViolation => rulesPath
  | .handlerFile target => target
  | .regexTimeout => errorPath
  | .malformedRegex => errorPath

/-- Whether an entry is about a pattern that fails. -/
def isFault : AuditKind → Bool
  | .regexTimeout => true
  | .malformedRegex => true
  | .ruleViolation => false
  | .handlerFile _ => false

/-- Entries about patterns that fail go into one file. -/
theorem target_of_isFault {k : AuditKind} (h : k.isFault = true) : k.target = errorPath := by
  cases k <;> simp_all [isFault, target]

end AuditKind

/-- An audit entry, with the player who caused it if there is one. -/
structure AuditEntry where
  kind : AuditKind
  actor : Option String
  message : String
deriving DecidableEq, Repr

end Moderation
