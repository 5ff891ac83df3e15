/-!
Faults: why a pattern is given up.
-/
namespace Moderation

/-- Why a pattern was given up: its time was over, it is malformed, or its search went back too
often. -/
inductive Fault
  | timeout
  | malformed
  | exhausted
deriving DecidableEq, Repr

namespace Fault

def label : Fault → String
  | .timeout => "timeout"
  | .malformed => "syntax"
  | .exhausted => "runtime"

def message : Fault → String
  | .timeout => "regex timed out"
  | .malformed => "malformed regex"
  | .exhausted => "regex failed"

/-- What an audit entry says about a malformed pattern. -/
def reason : String := "the pattern cannot be read"

end Fault

/-- Why an operation with a pattern has no value: a fault, or the program crashes in it. -/
inductive Failure
  | fault (fault : Fault)
  | crash
deriving DecidableEq, Repr

end Moderation
