import Moderation.Regex.Node

/-!
Where a match of a pattern can end. The ends are listed in order of preference and one for each
place, since what follows a plain pattern depends on the place alone. The first end is the match, and
the work is polynomial in the length of the text.
-/
namespace Moderation.Regex

/-- The cursors whose places are not in `seen` and not repeated. -/
def distinct (seen : List Nat) : List Cursor → List Cursor
  | [] => []
  | c :: r => if seen.contains c.index then distinct seen r else c :: distinct (c.index :: seen) r

/-- All ends of `step` from each of several cursors, one for each place. -/
def endsFromAll (step : Cursor → List Cursor) (cs : List Cursor) : List Cursor :=
  distinct [] (cs.flatMap step)

def endsOfTimes (step : Cursor → List Cursor) : Nat → List Cursor → List Cursor
  | 0, cs => cs
  | n + 1, cs => if cs.isEmpty then [] else endsOfTimes step n (endsFromAll step cs)

/-- Run `step` up to a number of times, as often as it can or as rarely. A place that was already
reached with as many runs left has given its ends. -/
def endsOfUpTo (step : Cursor → List Cursor) (greedy : Bool) :
    (left : Nat) → (seen : List (Nat × Nat)) → Cursor → List Cursor × List (Nat × Nat)
  | 0, seen, c => ([c], seen)
  | n + 1, seen, c =>
    if seen.contains (n, c.index) then ([], seen)
    else
      let (more, seen) := (step c).foldl (fun (ends, seen) d =>
        let (more, seen) := endsOfUpTo step greedy n seen d
        (ends ++ more, seen)) ([], (n, c.index) :: seen)
      (if greedy then more ++ [c] else c :: more, seen)

/-- Run `step` once or more from `c`, as often as it can or as rarely. Only the first run that comes to
a place counts, and `step` is not run again from `entry`, the place where the runs began; `fuel` bounds
the number of places. -/
def endsOfMore (step : Cursor → List Cursor) (greedy : Bool) (entry : Nat) :
    (fuel : Nat) → (seen : List Nat) → Cursor → List Cursor × List Nat
  | 0, seen, _ => ([], seen)
  | fuel + 1, seen, c =>
    (step c).foldl (fun (ends, seen) d =>
      if seen.contains d.index then (ends, seen)
      else if d.index = entry then (ends ++ [d], d.index :: seen)
      else
        let (more, seen) := endsOfMore step greedy entry fuel (d.index :: seen) d
        (ends ++ if greedy then more ++ [d] else d :: more, seen)) ([], seen)

/-- The ends of a repetition without an upper bound. -/
def endsOfPlus (step : Cursor → List Cursor) (greedy : Bool) (c : Cursor) : List Cursor :=
  distinct [] (endsOfMore step greedy c.index (c.rest.length + 1) [] c).1

/-- The ends of a pattern from a cursor, the preferred ones first. -/
def Node.ends : Node → Cursor → List Cursor
  | .empty, c => [c]
  | .set s, c =>
    match c.next? with
    | some (x, d) => if s.contains x then [d] else []
    | none => []
  | .assertion a, c => if a.holds c then [c] else []
  | .capture i body, c => (body.ends (c.mark (2 * i))).map (·.mark (2 * i + 1))
  | .concat a b, c => endsFromAll b.ends (a.ends c)
  | .alt a b, c => distinct [] (a.ends c ++ b.ends c)
  | .repeated body min max greedy, c =>
    match max with
    | some n =>
      endsFromAll (fun d => (endsOfUpTo body.ends greedy (n - min) [] d).1)
        (endsOfTimes body.ends min [c])
    | none =>
      if min = 0 then
        let more := endsOfPlus body.ends greedy c
        distinct [] (if greedy then more ++ [c] else c :: more)
      else endsFromAll (endsOfPlus body.ends greedy) (endsOfTimes body.ends (min - 1) [c])
  | .backref i, c =>
    match c.group? i with
    | some (a, b) => (c.skip? (c.slice a b)).toList
    | none => []
  | .look back negative body, c =>
    let found := match c.retreat? back with
      | some d => body.ends d
      | none => []
    match found with
    | [] => if negative then [c] else []
    | d :: _ => if negative then [] else [{ c with slots := d.slots }]
  | .atomic body, c => (body.ends c).take 1
  | .once body, c => (body.ends c).take 1
  | .keepOut, c => [{ c with first := c.index }]
  | .searchStart, c => if c.index = c.origin then [c] else []
  | .captured i, c => if (c.group? i).isSome then [c] else []
  | .ifThen condition yes no, c =>
    match condition.ends c with
    | d :: _ => yes.ends d
    | [] => no.ends c

/-- The cursor after the preferred match that begins at a place at or after the given one. -/
def Node.findFirst (root : Node) : (fuel : Nat) → Cursor → Option Cursor
  | 0, _ => none
  | fuel + 1, c =>
    match root.ends { c with first := c.index } with
    | d :: _ => some d
    | [] => if c.rest.isEmpty then none else root.findFirst fuel c.forward

end Moderation.Regex
