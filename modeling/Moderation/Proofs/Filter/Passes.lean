import Moderation.Proofs.Filter.Triples
import Moderation.Proofs.Regex.Literal
import Moderation.Proofs.Regex.Order

/-!
The passes that shorten runs, as searches for patterns. A pattern of a pass takes a block into a group and
looks ahead for the group, at least twice. It is found at the places where a block stands three times in
a row and nowhere else, so that taking its matches out is the pass over the text. What is tried on the way
is undone once for each place where the pattern is not found and once at the end of each look ahead, so
that a search is given up only if its budget does not exceed the length of the text.
-/
namespace Moderation.Regex
open Moderation.Filter

/-! ### Cursors that go on -/

namespace Cursor
variable {c d : Cursor} {text block : List Char}

lemma advance_eq {n : Nat} (h : n ≤ c.rest.length) :
    c.advance n = { c with
      before := (c.rest.take n).reverse ++ c.before, rest := c.rest.drop n, index := c.index + n } := by
  induction n generalizing c with
  | zero => rfl
  | succ n ih =>
    obtain ⟨before, rest, index, slots, first, origin⟩ := c
    cases rest with
    | nil => simp at h
    | cons x r =>
      rw [advance, ih (by simpa [forward, next?] using h)]
      simp [forward, next?, Nat.add_assoc, Nat.add_comm 1]

lemma skip?_eq (c : Cursor) (cs : List Char) :
    c.skip? cs = if cs <+: c.rest then some (c.advance cs.length) else none := by
  induction cs generalizing c with
  | nil => simp [skip?, advance]
  | cons x xs ih =>
    obtain ⟨before, rest, index, slots, first, origin⟩ := c
    cases rest with
    | nil => simp [skip?, next?]
    | cons y r =>
      simp only [skip?, next?, List.cons_prefix_cons]
      by_cases hxy : x = y
      · simp [hxy, ih, advance, forward, next?]
      · simp [hxy]

lemma advance_advance (i j : Nat) (c : Cursor) : (c.advance i).advance j = c.advance (i + j) := by
  induction i generalizing c with
  | zero => rw [Nat.zero_add]; rfl
  | succ i ih => rw [Nat.succ_add, advance, advance, ih]

/-- The first group of a pattern has taken part, with a text. -/
def Captured (block : List Char) (c : Cursor) : Prop :=
  ∃ a b, c.group? 1 = some (a, b) ∧ c.slice a b = block

lemma Captured.advance (h : Captured block c) {n : Nat} (hn : n ≤ c.rest.length) :
    Captured block (c.advance n) := by
  obtain ⟨a, b, hgroup, hslice⟩ := h
  rw [advance_eq hn]
  refine ⟨a, b, hgroup, ?_⟩
  simpa [slice] using hslice

/-- The place after so many characters that are the first group. -/
def afterGroup (c : Cursor) (size : Nat) : Cursor := ((c.mark 2).advance size).mark 3

lemma afterGroup_eq {size : Nat} (h : size ≤ c.rest.length) :
    c.afterGroup size =
      { c with
        before := (c.rest.take size).reverse ++ c.before
        rest := c.rest.drop size
        index := c.index + size
        slots := (3, c.index + size) :: (2, c.index) :: c.slots } := by
  rw [afterGroup, advance_eq (c := c.mark 2) h]
  rfl

end Cursor

namespace Node
variable {c d : Cursor} {k : Continuation} {text block : List Char} {n size : Nat}

lemma run_backref (h : c.Captured block) (k : Continuation) (n : Nat) :
    (backref 1).run c k n =
      if block <+: c.rest then k (c.advance block.length) n else .failed n := by
  obtain ⟨a, b, hgroup, rfl⟩ := h
  by_cases hb : c.slice a b <+: c.rest <;> simp [run, hgroup, Cursor.skip?_eq, hb]

/-- What is found at a place, unless nothing is left to pay with. -/
def Affords (d : Cursor) (n : Nat) (o : Outcome) : Prop :=
  (∃ m, o = .found d m) ∨ o = .exhausted ∧ n = 0

/-- A greedy repetition of a reference is found if all that comes after it is found at one place, as long
as the end of the repetition can be paid for. -/
lemma runMany_backref (hne : block ≠ []) (h : c.Captured block)
    (hk : ∀ j ≤ c.rest.length, ∀ m, k (c.advance j) m = .found d m) (fuel n : Nat) :
    Affords d n (runMany (backref 1).run true fuel c k n) := by
  induction fuel generalizing c n with
  | zero => exact .inl ⟨n, hk 0 (Nat.zero_le _) n⟩
  | succ fuel ih =>
    rw [runMany, prefer, if_pos rfl]
    by_cases hb : block <+: c.rest
    · have hlength := hb.length_le
      have hmoves : (c.advance block.length).index ≠ c.index := by
        rw [Cursor.advance_eq hlength]
        simpa using hne
      have hstep : (backref 1).run c (fun e m => if e.index = c.index then .failed m
          else runMany (backref 1).run true fuel e k m) n =
            runMany (backref 1).run true fuel (c.advance block.length) k n := by
        rw [run_backref h, if_pos hb, if_neg hmoves]
      have hk' : ∀ j ≤ (c.advance block.length).rest.length, ∀ m,
          k ((c.advance block.length).advance j) m = .found d m := by
        intro j hj m
        rw [Cursor.advance_eq hlength, List.length_drop] at hj
        rw [Cursor.advance_advance, hk _ (by omega)]
      obtain ⟨m, hm⟩ | ⟨hm, hn⟩ := ih (h.advance hlength) hk' n
      · exact .inl ⟨m, orElse_found (hstep.trans hm)⟩
      · exact .inr ⟨orElse_exhausted (hstep.trans hm), hn⟩
    · rw [orElse, run_backref h, if_neg hb]
      cases n with
      | zero => exact .inr ⟨rfl, rfl⟩
      | succ n => exact .inl ⟨n, hk 0 (Nat.zero_le _) n⟩

/-! ### The pattern for a block that stands three times in a row -/

/-- So many characters, none of them a line end. -/
def anyBlock : Nat → Node
  | 1 => .set .allButLineFeed
  | size => .once (.sequence (.replicate size (.set .allButLineFeed)))

lemma ends_foldl_sets {m : Node} {s : CharSet}
    (hm : m.ends c = if spells [s] d.rest then [d.forward] else []) (ss : List CharSet) :
    ((ss.map .set).foldl .concat m).ends c =
      if spells (s :: ss) d.rest then [d.advance (ss.length + 1)] else [] := by
  induction ss generalizing m d s with
  | nil => exact hm
  | cons t ss ih =>
    rw [spells_cons]
    by_cases hs : spells [s] d.rest = true
    · rw [if_pos hs] at hm
      have hnext : (concat m (.set t)).ends c = (Node.set t).ends d.forward :=
        ends_concat_of_ends hm (by rw [ends_set]; split <;> simp)
      rw [List.map_cons, List.foldl_cons, ih (hnext.trans (ends_set t d.forward)), hs, Bool.true_and]
      rfl
    · rw [if_neg hs] at hm
      simpa [hs] using ends_foldl_of_none hm (t :: ss)

lemma contains_allButLineFeed (x : Char) :
    CharSet.allButLineFeed.contains x = true ↔ x ≠ '\n' := by
  rw [← Char.toNat_inj.ne]
  simp [CharSet.allButLineFeed, Bool.eq_false_iff]

lemma spells_replicate (size : Nat) (cs : List Char) :
    spells (.replicate size .allButLineFeed) cs = true ↔ size ≤ cs.length ∧ '\n' ∉ cs.take size := by
  induction size generalizing cs with
  | zero => simp [spells]
  | succ size ih =>
    cases cs with
    | nil => simp [spells, List.replicate_succ]
    | cons x r =>
      simp only [List.replicate_succ, spells, Bool.and_eq_true, contains_allButLineFeed, ih,
        List.length_cons, List.take_succ_cons, List.mem_cons, not_or]
      grind

lemma run_anyBlock (hsize : 1 ≤ size) (c : Cursor) (k : Continuation) (n : Nat) :
    (anyBlock size).run c k n =
      if size ≤ c.rest.length ∧ '\n' ∉ c.rest.take size then k (c.advance size) n else .failed n := by
  simp only [← spells_replicate]
  match size with
  | 1 =>
    obtain ⟨before, rest, index, slots, first, origin⟩ := c
    cases rest with
    | nil => rfl
    | cons x r => simp [anyBlock, run, Cursor.next?, spells, Cursor.advance, Cursor.forward]
  | size + 2 =>
    have hends : (sequence (.replicate (size + 2) (.set .allButLineFeed))).ends c =
        if spells (.replicate (size + 2) .allButLineFeed) c.rest then [c.advance (size + 2)] else [] := by
      simpa [sequence, List.replicate_succ] using
        ends_foldl_sets (ends_set .allButLineFeed c) (.replicate (size + 1) .allButLineFeed)
    simp only [anyBlock, run, hends]
    by_cases hs : spells (.replicate (size + 2) .allButLineFeed) c.rest = true <;> simp [hs]

/-- The text of a group at least twice ahead. -/
def twiceAhead : Node := .look 0 false (.concat (.backref 1) (.repeated (.backref 1) 1 none true))

lemma append_prefix_iff {part cs : List Char} :
    part ++ part <+: cs ↔ part <+: cs ∧ part <+: cs.drop part.length := by
  constructor
  · rintro ⟨r, rfl⟩
    exact ⟨⟨part ++ r, by simp⟩, ⟨r, by simp⟩⟩
  · rintro ⟨⟨r, rfl⟩, h⟩
    rw [List.drop_left] at h
    exact (List.prefix_append_right_inj part).2 h

lemma run_twiceAhead_eq (h : c.Captured block) (n : Nat) :
    twiceAhead.run c accept n =
      if block <+: c.rest then
        (backref 1).run (c.advance block.length)
          (fun e => runMany (backref 1).run true (e.rest.length + 1) e
            fun f => accept { c with slots := f.slots, first := f.first }) n
      else .failed n :=
  run_backref h _ n

lemma run_twiceAhead (hne : block ≠ []) (h : c.Captured block) (hahead : block ++ block <+: c.rest)
    (n : Nat) : Affords c n (twiceAhead.run c accept n) := by
  obtain ⟨hfirst, hsecond⟩ := append_prefix_iff.1 hahead
  have hlength : block.length + block.length ≤ c.rest.length := by simpa using hahead.length_le
  have hrest : (c.advance block.length).rest = c.rest.drop block.length := by
    rw [Cursor.advance_eq (by omega)]
  rw [run_twiceAhead_eq h, if_pos hfirst, run_backref (h.advance (by omega)), hrest, if_pos hsecond,
    Cursor.advance_advance]
  refine runMany_backref hne (h.advance hlength) (fun j hj m => ?_) _ n
  rw [Cursor.advance_eq hlength, List.length_drop] at hj
  rw [Cursor.advance_advance, Cursor.advance_eq (by omega)]
  rfl

lemma run_twiceAhead_of_not (h : c.Captured block) (hahead : ¬block ++ block <+: c.rest) (n : Nat) :
    twiceAhead.run c accept n = .failed n := by
  rw [run_twiceAhead_eq h]
  by_cases hfirst : block <+: c.rest
  case neg => rw [if_neg hfirst]
  have hsecond : ¬block <+: c.rest.drop block.length :=
    fun hsecond => hahead (append_prefix_iff.2 ⟨hfirst, hsecond⟩)
  have hlength := hfirst.length_le
  rw [if_pos hfirst, run_backref (h.advance hlength), Cursor.advance_eq hlength, if_neg hsecond]

/-- A block, with the same block at least twice ahead. -/
def triple (size : Nat) : Node := .concat (.capture 1 (anyBlock size)) twiceAhead

lemma captured_afterGroup (hc : c.Placed text) (h : size ≤ c.rest.length) :
    (c.afterGroup size).Captured (c.rest.take size) := by
  rw [Cursor.afterGroup_eq h]
  refine ⟨c.index, c.index + size, rfl, ?_⟩
  simp [Cursor.slice, hc.index]

lemma run_triple_eq (hsize : 1 ≤ size) (c : Cursor) (n : Nat) :
    (triple size).run c accept n =
      if size ≤ c.rest.length ∧ '\n' ∉ c.rest.take size then
        twiceAhead.run (c.afterGroup size) accept n
      else .failed n :=
  run_anyBlock hsize (c.mark 2) _ n

/-- The pattern is found where a block stands three times in a row, after its first block. -/
lemma run_triple (hsize : 1 ≤ size) (hc : c.Placed text)
    (h : startsTriple size c.rest = true) (n : Nat) :
    Affords (c.afterGroup size) n ((triple size).run c accept n) := by
  obtain ⟨hblock, hahead⟩ := startsTriple_iff.1 h
  rw [run_triple_eq hsize, if_pos hblock]
  refine run_twiceAhead ?_ (captured_afterGroup hc hblock.1) ?_ n
  · exact List.ne_nil_of_length_pos (by simp; omega)
  · simpa [Cursor.afterGroup_eq hblock.1] using hahead

lemma run_triple_of_not (hsize : 1 ≤ size) (hc : c.Placed text)
    (h : startsTriple size c.rest ≠ true) (n : Nat) :
    (triple size).run c accept n = .failed n := by
  rw [run_triple_eq hsize]
  split
  · rename_i hblock
    refine run_twiceAhead_of_not (captured_afterGroup hc hblock.1) (fun hahead => h ?_) n
    rw [Cursor.afterGroup_eq hblock.1] at hahead
    exact startsTriple_iff.2 ⟨hblock, hahead⟩
  · rfl

end Node

/-! ### The search for the pattern -/

section Search
variable {c d : Cursor} {text : List Char} {size : Nat}

/-- A match that is the first block of the first run ahead. What is before it stays as it is. -/
structure FirstBlock (text : List Char) (size : Nat) (c d : Cursor) : Prop where
  placed : d.Placed text
  le_first : c.index ≤ d.first
  index : d.index = d.first + size
  rest : d.rest = c.rest.drop (d.index - c.index)
  shorter : d.rest.length < c.rest.length
  shortened : shortenAfter size 0 c.rest = c.rest.take (d.first - c.index) ++ shortenAfter size 0 d.rest

/-- What a search from a place comes to with a budget: the first block of the first run ahead, or nothing
if there is no run ahead, or it is given up if the budget does not exceed the characters ahead. -/
inductive Searched (text : List Char) (size : Nat) (c : Cursor) (n : Nat) : Outcome → Prop
  | found {d : Cursor} (m : Nat) (h : FirstBlock text size c d) : Searched text size c n (.found d m)
  | failed (m : Nat) (h : shortenAfter size 0 c.rest = c.rest) : Searched text size c n (.failed m)
  | exhausted (h : n ≤ c.rest.length) : Searched text size c n .exhausted

lemma firstBlock_of_triple (hsize : 1 ≤ size) (hc : c.Placed text) (h : startsTriple size c.rest = true) :
    FirstBlock text size c (Cursor.afterGroup { c with first := c.index } size) := by
  have hlength := (startsTriple_iff.1 h).1.1
  rw [Cursor.afterGroup_eq (c := { c with first := c.index }) hlength]
  constructor
  case placed => exact ⟨by simpa using hc.around, by simp [hc.index]; omega⟩
  case le_first => exact Nat.le_refl _
  case index => rfl
  case rest => simp
  case shorter =>
    simp only [List.length_drop]
    omega
  case shortened => simpa using shortenAfter_of_startsTriple hsize h

lemma FirstBlock.of_forward {x : Char} {r : List Char} (hr : c.rest = x :: r)
    (hno : startsTriple size c.rest ≠ true) (h : FirstBlock text size c.forward d) :
    FirstBlock text size c d := by
  have hindex : c.forward.index = c.index + 1 := Cursor.forward_index c x r hr
  have hrest : c.forward.rest = r := rest_forward hr
  obtain ⟨hplaced, hfirst, hend, hd, hshorter, hshortened⟩ := h
  rw [hindex] at hfirst hd hshortened
  rw [hrest] at hd hshorter hshortened
  refine ⟨hplaced, by omega, hend, ?_, by rw [hr]; exact Nat.lt_succ_of_lt hshorter, ?_⟩
  · rw [hr, hd, show d.index - c.index = d.index - (c.index + 1) + 1 by omega, List.drop_succ_cons]
  · rw [hr] at hno ⊢
    rw [shortenAfter_cons hno, hshortened,
      show d.first - c.index = d.first - (c.index + 1) + 1 by omega, List.take_succ_cons,
      List.cons_append]

/-- A search goes on from the next place if no block stands three times in a row at this one. It pays for that. -/
lemma Searched.of_forward {x : Char} {r : List Char} (hr : c.rest = x :: r)
    (hno : startsTriple size c.rest ≠ true) {n : Nat} {o : Outcome}
    (h : Searched text size c.forward n o) : Searched text size c (n + 1) o := by
  cases h with
  | found m h => exact .found m (h.of_forward hr hno)
  | failed m h =>
    refine .failed m ?_
    rw [rest_forward hr] at h
    rw [hr] at hno ⊢
    rw [shortenAfter_cons hno, h]
  | exhausted h =>
    refine .exhausted ?_
    rw [rest_forward hr] at h
    rw [hr]
    exact Nat.succ_le_succ h

lemma searched_runFirst (hsize : 1 ≤ size) {fuel : Nat} (hc : c.Placed text)
    (hfuel : c.rest.length < fuel) (n : Nat) :
    Searched text size c n ((Node.triple size).runFirst fuel c n) := by
  induction fuel generalizing c n with
  | zero => omega
  | succ fuel ih =>
    rw [Node.runFirst]
    have hstart : Cursor.Placed text { c with first := c.index } := ⟨hc.around, hc.index⟩
    by_cases htriple : startsTriple size c.rest = true
    · obtain ⟨m, hm⟩ | ⟨hm, hn⟩ := Node.run_triple hsize hstart htriple n
      · rw [orElse_found hm]
        exact .found m (firstBlock_of_triple hsize hc htriple)
      · rw [orElse_exhausted hm]
        exact .exhausted (by omega)
    · rw [orElse, Node.run_triple_of_not hsize hstart htriple]
      cases n with
      | zero => exact .exhausted (Nat.zero_le _)
      | succ n =>
        cases hr : c.rest with
        | nil => exact .failed n (by rw [hr, shortenAfter])
        | cons x r =>
          have hfuel' : c.forward.rest.length < fuel := by
            rw [rest_forward hr]
            rw [hr] at hfuel
            exact Nat.lt_of_succ_lt_succ hfuel
          have hforward := ih ((Cursor.Leads.forward true c).placed hc) hfuel' n
          simpa using hforward.of_forward hr htriple

/-- The pattern for a block of a length with the same block at least twice ahead, ready to be searched
for with a budget. -/
def compiledTriple (size budget : Nat) : Compiled := ⟨.triple size, [], true, budget⟩

lemma searched_search (hsize : 1 ≤ size) (hc : c.Placed text) (budget : Nat) :
    Searched text size c budget ((compiledTriple size budget).search c) := by
  have hstart : Cursor.Placed text { c with slots := [], origin := c.index } := ⟨hc.around, hc.index⟩
  have h := searched_runFirst hsize hstart (Nat.lt_succ_self c.rest.length) budget
  have hsearch : (compiledTriple size budget).search c = (Node.triple size).runFirst (c.rest.length + 1)
      { c with slots := [], origin := c.index } budget := rfl
  rw [hsearch]
  generalize (Node.triple size).runFirst _ _ budget = o at h
  cases h with
  | found m h => exact .found m { h with }
  | failed m h => exact .failed m h
  | exhausted h => exact .exhausted h

/-- Taking out all matches is the pass over the text, unless it is given up. -/
lemma replace_walkFrom (hsize : 1 ≤ size) (budget : Nat) {fuel : Nat} (last : Option Nat) (hc : c.Placed text)
    (hfuel : c.rest.length < fuel) {expand : Cursor → Option (List Char)}
    (hexpand : ∀ m, expand m = some []) :
    let result := (((compiledTriple size budget).walkFrom fuel last c).replace expand c.index c.rest).result
    result = .done (shortenAfter size 0 c.rest) ∨ result = .exhausted ∧ budget ≤ c.rest.length := by
  induction fuel generalizing c last with
  | zero => omega
  | succ fuel ih =>
    have hsearch := searched_search hsize hc budget
    rw [Compiled.walkFrom]
    generalize (compiledTriple size budget).search c = o at hsearch
    cases hsearch with
    | exhausted h => exact .inr ⟨rfl, h⟩
    | failed m h => exact .inl (by rw [h]; rfl)
    | @found d m h =>
      have hfirst := h.le_first
      have hindex := h.index
      have hlength := h.shorter
      have hstarts : ¬d.first < c.index := by omega
      have hne : d.first ≠ d.index := by omega
      have hleads : ¬d.index ≤ c.index := by omega
      simp only [if_neg hne, if_neg hleads, Walk.replace, hexpand d, if_neg hstarts, ← h.rest]
      obtain hdone | ⟨hexhausted, hbudget⟩ := ih (some d.index) h.placed (by omega)
      · exact .inl (by rw [hdone, Result.map, List.append_nil, h.shortened])
      · exact .inr ⟨by rw [hexhausted]; rfl, by omega⟩

end Search

lemma compile?_triplePattern {size : Nat} (h : size ∈ [1, 2, 3]) (budget : Nat) :
    compile? {} budget (triplePattern size) = some (compiledTriple size budget) := by
  have hextended : ∀ size ∈ [1, 2, 3], isExtended (triplePattern size) = true := by decide +kernel
  have hread : ∀ size ∈ [1, 2, 3], (readExtended (triplePattern size)).map (fun p =>
      (if p.1.isHard p.1.references then p.1.plan p.1.references false else .once p.1, p.2.2)) =
        some (.triple size, []) := by decide +kernel
  obtain ⟨⟨node, groups, names⟩, hnode, hplan⟩ := Option.map_eq_some_iff.1 (hread size h)
  simp only [Prod.mk.injEq] at hplan
  simp [compile?, hextended size h, hnode, hplan, compiledTriple, Library.node?]

end Moderation.Regex

namespace Moderation.Filter
open Regex Unicode Text.Color

/-- The pass by pattern is the pass over the text, and it is not given up if its budget exceeds the
length of the text. -/
lemma pass?_eq {size : Nat} (h : size ∈ [1, 2, 3]) (budget : Nat) (cs : List Char) :
    (∀ out, pass? budget size cs = some out → out = shortenAfter size 0 cs) ∧
      (cs.length < budget → pass? budget size cs = some (shortenAfter size 0 cs)) := by
  have hsize : 1 ≤ size := by
    simp at h
    omega
  have hstart : (Cursor.start cs).Placed cs := ⟨by simp [Cursor.start], rfl⟩
  have hpass : pass? budget size cs =
      ((compiledTriple size budget).replaceAll [] cs).result.value? := by
    rw [pass?, compile?_triplePattern h]
    rfl
  rw [hpass, Compiled.replaceAll, Compiled.walk]
  generalize hresult : (Walk.replace _ 0 cs _).result = result
  have h := replace_walkFrom hsize budget none hstart (Nat.lt_succ_self cs.length)
    (expandTemplate?_nil true [])
  rw [show (Cursor.start cs).index = 0 from rfl, show (Cursor.start cs).rest = cs from rfl] at h
  obtain hdone | ⟨hexhausted, hbudget⟩ := h
  · obtain rfl := hresult.symm.trans hdone
    exact ⟨fun out h => (Option.some.inj h).symm, fun _ => rfl⟩
  · obtain rfl := hresult.symm.trans hexhausted
    exact ⟨fun _ h => (by cases h), fun hlt => absurd hlt (Nat.not_lt.2 hbudget)⟩

/-- The three passes by pattern, one after the other. -/
def passes? (budget : Nat) (cs : List Char) : Option (List Char) :=
  [1, 2, 3].foldlM (fun cs size => pass? budget size cs) cs

lemma passes?_eq (budget : Nat) (cs : List Char) :
    passes? budget cs =
      (pass? budget 1 cs).bind fun cs => (pass? budget 2 cs).bind fun cs => pass? budget 3 cs := by
  simp [passes?]

lemma eq_of_passes? {budget : Nat} {cs out : List Char} (h : passes? budget cs = some out) :
    out = shortenRuns cs := by
  rw [passes?_eq] at h
  obtain ⟨first, hfirst, h⟩ := Option.bind_eq_some_iff.1 h
  obtain ⟨second, hsecond, hthird⟩ := Option.bind_eq_some_iff.1 h
  rw [shortenRuns_eq, ← (pass?_eq (by simp) budget cs).1 _ hfirst,
    ← (pass?_eq (by simp) budget first).1 _ hsecond, ← (pass?_eq (by simp) budget second).1 _ hthird]

lemma passes?_of_length_lt {budget : Nat} {cs : List Char} (h : cs.length < budget) :
    passes? budget cs = some (shortenRuns cs) := by
  have hfirst := (shortenAfter_sublist 1 0 cs).length_le
  have hsecond := (shortenAfter_sublist 2 0 (shortenAfter 1 0 cs)).length_le
  rw [passes?_eq, (pass?_eq (by simp) budget cs).2 h, Option.bind_some,
    (pass?_eq (by simp) budget _).2 (by omega), Option.bind_some,
    (pass?_eq (by simp) budget _).2 (by omega), shortenRuns_eq]

/-! ### Texts after all passes -/

lemma pass_eq_or {size : Nat} (h : size ∈ [1, 2, 3]) (cs : List Char) :
    pass size cs = shortenAfter size 0 cs ∨ pass size cs = cs := by
  rw [pass]
  cases hpass : pass? passBudget size cs with
  | none => exact .inr rfl
  | some out => exact .inl ((pass?_eq h passBudget cs).1 out hpass)

lemma pass_sublist {size : Nat} (h : size ∈ [1, 2, 3]) (cs : List Char) : (pass size cs).Sublist cs := by
  obtain heq | heq := pass_eq_or h cs
  · rw [heq]
    exact shortenAfter_sublist size 0 cs
  · rw [heq]

/-- Whether or not a pass is given up, characters are only left out. -/
theorem shortened_sublist (cs : List Char) : (shortened cs).Sublist cs :=
  (pass_sublist (by simp) _).trans ((pass_sublist (by simp) _).trans (pass_sublist (by simp) cs))

lemma shortened_of_passes? {cs out : List Char} (h : passes? passBudget cs = some out) :
    shortened cs = out := by
  rw [passes?_eq] at h
  obtain ⟨first, hfirst, h⟩ := Option.bind_eq_some_iff.1 h
  obtain ⟨second, hsecond, hthird⟩ := Option.bind_eq_some_iff.1 h
  simp only [shortened, List.foldl_cons, List.foldl_nil, pass, hfirst, hsecond, hthird, Option.getD_some]

/-- Whatever the budget of their searches, the three passes by pattern leave a text in which characters
are only left out and no block of up to three characters stands three times in a row, and no other if
nothing did so before. They come to an end with a budget that exceeds the length of the text. The first
of them shortens the runs of one character, and changes nothing else. What a text is compared by is the
small form of what they leave with the budget that they have. -/
theorem passes_leave_no_triple (cs : List Char) :
    (∀ budget out, passes? budget cs = some out →
      out.Sublist cs ∧ ¬HasTriple out ∧ (out = cs ↔ ¬HasTriple cs) ∧
        ∀ special (text : String), budget = passBudget →
          (if special then text.toList.filter isOrdinary else text.toList) = cs →
            prepare special true text = .ofList (strip (lowerText out))) ∧
    (∀ budget out, pass? budget 1 cs = some out → out = (cs.splitBy (· == ·)).flatMap shortenRun) ∧
    (∀ budget, cs.length < budget →
      passes? budget cs = some (shortenRuns cs) ∧
        pass? budget 1 cs = some ((cs.splitBy (· == ·)).flatMap shortenRun)) := by
  refine ⟨fun budget out h => ?_, fun budget out h => ?_, fun budget h => ⟨passes?_of_length_lt h, ?_⟩⟩
  · obtain rfl := eq_of_passes? h
    refine ⟨shortenRuns_sublist cs, not_hasTriple_shortenRuns cs, shortenRuns_eq_self_iff, ?_⟩
    rintro special text rfl rfl
    simp only [prepare, if_true, shortened_of_passes? h]
  · rw [← shortenAfter_one]
    exact (pass?_eq (by simp) budget cs).1 out h
  · rw [← shortenAfter_one]
    exact (pass?_eq (by simp) budget cs).2 h

end Moderation.Filter
