import Moderation.Regex.Ends

/-!
Matching by going back. Each choice that has to be undone is paid for out of a budget, and a match
that runs out of it is given up.
-/
namespace Moderation.Regex

/-- What a match attempt comes to: an end, or none, with what is left of the budget; or nothing,
because the budget is used up. -/
inductive Outcome
  | found (c : Cursor) (budget : Nat)
  | failed (budget : Nat)
  | exhausted

/-- What is done with an end and the budget left. -/
abbrev Continuation := Cursor → Nat → Outcome

def accept : Continuation := .found

/-- Try `first`; if it fails, pay and try `second`. -/
def orElse (first second : Nat → Outcome) (budget : Nat) : Outcome :=
  match first budget with
  | .failed 0 => .exhausted
  | .failed (n + 1) => second n
  | o => o

@[simp] theorem orElse_found {first second : Nat → Outcome} {n m : Nat} {c : Cursor}
    (h : first n = .found c m) : orElse first second n = .found c m := by simp [orElse, h]

@[simp] theorem orElse_exhausted {first second : Nat → Outcome} {n : Nat}
    (h : first n = .exhausted) : orElse first second n = .exhausted := by simp [orElse, h]

/-- Try two ways in the given order of preference. -/
def prefer (more : Bool) (first second : Nat → Outcome) : Nat → Outcome :=
  if more then orElse first second else orElse second first

def runTimes (step : Cursor → Continuation → Nat → Outcome) :
    Nat → Cursor → Continuation → Nat → Outcome
  | 0, c, k => k c
  | n + 1, c, k => step c fun d => runTimes step n d k

def runUpTo (step : Cursor → Continuation → Nat → Outcome) (greedy : Bool) :
    Nat → Cursor → Continuation → Nat → Outcome
  | 0, c, k => k c
  | n + 1, c, k => prefer greedy (step c fun d => runUpTo step greedy n d k) (k c)

/-- Run `step` any number of times and go on. A run that does not move forward fails, so `fuel` need
not exceed the number of characters ahead. -/
def runMany (step : Cursor → Continuation → Nat → Outcome) (greedy : Bool) :
    (fuel : Nat) → Cursor → Continuation → Nat → Outcome
  | 0, c, k => k c
  | fuel + 1, c, k =>
    prefer greedy
      (step c fun d n => if d.index = c.index then .failed n else runMany step greedy fuel d k n)
      (k c)

/-- Run a pattern from a cursor and go on from its ends, the preferred ones first. -/
def Node.run : Node → Cursor → Continuation → Nat → Outcome
  | .empty, c, k => k c
  | .set s, c, k => fun n =>
    match c.next? with
    | some (x, d) => if s.contains x then k d n else .failed n
    | none => .failed n
  | .assertion a, c, k => fun n => if a.holds c then k c n else .failed n
  | .capture i body, c, k => body.run (c.mark (2 * i)) fun d => k (d.mark (2 * i + 1))
  | .concat a b, c, k => a.run c fun d => b.run d k
  | .alt a b, c, k => orElse (a.run c k) (b.run c k)
  | .repeated body min max greedy, c, k =>
    runTimes body.run min c fun d =>
      match max with
      | some m => runUpTo body.run greedy (m - min) d k
      | none => runMany body.run greedy (d.rest.length + 1) d k
  | .backref i, c, k => fun n =>
    match (c.group? i).bind fun (a, b) => c.skip? (c.slice a b) with
    | some d => k d n
    | none => .failed n
  | .look back negative body, c, k => fun n =>
    match c.retreat? back with
    | none => if negative then k c n else .failed n
    | some b =>
      if negative then
        match body.run b accept n with
        | .found _ m => .failed m
        | .failed 0 => .exhausted
        | .failed (m + 1) => k c m
        | .exhausted => .exhausted
      else body.run b (fun d => k { c with slots := d.slots, first := d.first }) n
  | .atomic body, c, k => fun n =>
    match body.run c accept n with
    | .found d m => k d m
    | o => o
  | .once body, c, k => fun n =>
    match body.ends c with
    | d :: _ => k d n
    | [] => .failed n
  | .keepOut, c, k => k { c with first := c.index }
  | .searchStart, c, k => fun n => if c.index = c.origin then k c n else .failed n
  | .captured i, c, k => fun n => if (c.group? i).isSome then k c n else .failed n
  | .ifThen condition yes no, c, k => fun n =>
    match condition.run c accept n with
    | .found d m => yes.run d k m
    | .failed 0 => .exhausted
    | .failed (m + 1) => no.run c k m
    | .exhausted => .exhausted

/-- The preferred match that begins at a place at or after the given one. Each place at which none
begins is paid for as well. -/
def Node.runFirst (root : Node) : (fuel : Nat) → Cursor → Nat → Outcome
  | 0, _, n => .failed n
  | fuel + 1, c, n =>
    orElse (root.run { c with first := c.index } accept)
      (fun m => if c.rest.isEmpty then .failed m else root.runFirst fuel c.forward m) n

end Moderation.Regex
