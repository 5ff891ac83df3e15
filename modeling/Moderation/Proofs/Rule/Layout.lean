import Mathlib.Data.List.Forall2
import Mathlib.Data.Option.Basic
import Mathlib.Tactic.Lemma
import Moderation.Rule.Reader

/-!
The layout of files of rules. Indentation, blanks at the ends of lines, blank lines and comments
change the numbers of the lines that say something and nothing else. Two files in which the same
lines say something are read in step, and what is open or fails in one is open or fails in the
other, at another line.
-/
namespace Moderation
open Moderation.Text

/-! ### Lines that say something -/

/-- The lines of a file without the blanks at their ends. -/
def trimmedLines (source : String) : List String := (parts '\n' source).map trimmed

/-- What is said in a file, line by line. -/
def saidIn (source : String) : List String := (trimmedLines source).filter fun t => !saysNothing t

/-- The line with a given number, counted from one, says something, and `k` lines before it do. -/
def SaysAt (source : String) (k number : Nat) : Prop :=
  ∃ before text rest, trimmedLines source = before ++ text :: rest ∧ before.length + 1 = number ∧
    saysNothing text = false ∧ (before.filter fun t => !saysNothing t).length = k

/-- The lines that say something, when `skipped` lines stand before them. -/
def numberedFrom (skipped : Nat) (texts : List String) : List Line :=
  (texts.mapIdx fun i text => (⟨skipped + i + 1, text⟩ : Line)).filter fun l => !saysNothing l.text

lemma linesOf_eq_numberedFrom (source : String) :
    linesOf source = numberedFrom 0 (trimmedLines source) := by
  simp only [linesOf, numberedFrom, trimmedLines, parts, List.map_map, Nat.zero_add]
  congr 3
  funext cs
  simp [trimmed]

lemma numberedFrom_cons (skipped : Nat) (text : String) (texts : List String) :
    numberedFrom skipped (text :: texts) =
      (if saysNothing text then [] else [⟨skipped + 1, text⟩]) ++
        numberedFrom (skipped + 1) texts := by
  have hnumber : (fun i text => (⟨skipped + (i + 1) + 1, text⟩ : Line)) =
      fun i text => ⟨skipped + 1 + i + 1, text⟩ := by
    funext i text
    rw [Nat.add_right_comm skipped 1 i, Nat.add_assoc skipped i 1]
  rw [numberedFrom, List.mapIdx_cons, hnumber, List.filter_cons, numberedFrom]
  cases saysNothing text <;> simp

lemma getElem?_numberedFrom {texts : List String} {skipped k : Nat} {l : Line}
    (h : (numberedFrom skipped texts)[k]? = some l) :
    ∃ before rest, texts = before ++ l.text :: rest ∧ skipped + before.length + 1 = l.number ∧
      saysNothing l.text = false ∧ (before.filter fun t => !saysNothing t).length = k := by
  induction texts generalizing skipped k with
  | nil => simp [numberedFrom] at h
  | cons text texts ih =>
    rw [numberedFrom_cons] at h
    by_cases hsilent : saysNothing text = true
    · rw [if_pos hsilent, List.nil_append] at h
      obtain ⟨before, rest, htexts, hnumber, hl, hk⟩ := ih h
      refine ⟨text :: before, rest, by rw [htexts, List.cons_append], ?_, hl, by simp [hsilent, hk]⟩
      rw [List.length_cons]
      omega
    · rw [if_neg hsilent] at h
      cases k with
      | zero =>
        obtain rfl : (⟨skipped + 1, text⟩ : Line) = l := by simpa using h
        exact ⟨[], texts, rfl, rfl, by simpa using hsilent, rfl⟩
      | succ k =>
        obtain ⟨before, rest, htexts, hnumber, hl, hk⟩ := ih (by simpa using h)
        refine ⟨text :: before, rest, by rw [htexts, List.cons_append], ?_, hl, by simp [hsilent, hk]⟩
        rw [List.length_cons]
        omega

lemma saysAt_of_getElem? {source : String} {k : Nat} {l : Line} (h : (linesOf source)[k]? = some l) :
    SaysAt source k l.number := by
  rw [linesOf_eq_numberedFrom] at h
  obtain ⟨before, rest, htexts, hnumber, hl, hk⟩ := getElem?_numberedFrom h
  exact ⟨before, l.text, rest, htexts, by omega, hl, hk⟩

lemma map_text_numberedFrom (skipped : Nat) (texts : List String) :
    (numberedFrom skipped texts).map (·.text) = texts.filter fun t => !saysNothing t := by
  induction texts generalizing skipped with
  | nil => rfl
  | cons text texts ih =>
    rw [numberedFrom_cons, List.map_append, ih]
    cases h : saysNothing text <;> simp [h]

lemma map_text_linesOf_eq_saidIn (source : String) : (linesOf source).map (·.text) = saidIn source := by
  rw [linesOf_eq_numberedFrom, map_text_numberedFrom, saidIn]

/-- Lines that say the same, where the number of one belongs to the number of the other. -/
structure Line.Matches (P : Nat → Nat → Prop) (l l' : Line) : Prop where
  text : l.text = l'.text
  number : P l.number l'.number

/-- Numbers of lines before which equally many lines say something. -/
def SameTurn (source source' : String) (number number' : Nat) : Prop :=
  ∃ k, SaysAt source k number ∧ SaysAt source' k number'

lemma forall₂_linesOf {source source' : String} (h : saidIn source = saidIn source') :
    List.Forall₂ (Line.Matches (SameTurn source source')) (linesOf source) (linesOf source') := by
  have htexts : (linesOf source).map (·.text) = (linesOf source').map (·.text) := by
    rw [map_text_linesOf_eq_saidIn, map_text_linesOf_eq_saidIn, h]
  have hlength : (linesOf source).length = (linesOf source').length := by
    simpa using congrArg List.length htexts
  apply List.forall₂_iff_get.2
  refine ⟨hlength, fun k hk hk' => ⟨?_, k, ?_, ?_⟩⟩
  · have hget := congrArg (·[k]?) htexts
    simpa [hk, hk'] using hget
  · exact saysAt_of_getElem? (by simp)
  · exact saysAt_of_getElem? (by simp)

/-! ### Causes of failure at another line -/

namespace LoadError

/-- The line that a cause of failure is about. -/
def place? : LoadError → Option Place
  | .operatorOutsideRule place _ => some place
  | .unknownOperator place _ _ => some place
  | .unknownPacketOperator place _ _ => some place
  | .duplicateDirective place _ _ => some place
  | .duplicateRule place _ => some place
  | .malformed place _ _ => some place
  | .unknownHandler place _ => some place
  | .duplicateCategory _ => none
  | .invalidHandler _ _ => none
  | .io _ => none
  | .yaml _ => none

/-- The same cause of failure at the line with another number. -/
def atLine (number : Nat) : LoadError → LoadError
  | .operatorOutsideRule place text => .operatorOutsideRule { place with line := number } text
  | .unknownOperator place text rule => .unknownOperator { place with line := number } text rule
  | .unknownPacketOperator place text rule =>
    .unknownPacketOperator { place with line := number } text rule
  | .duplicateDirective place directive rule =>
    .duplicateDirective { place with line := number } directive rule
  | .duplicateRule place rule => .duplicateRule { place with line := number } rule
  | .malformed place text reason => .malformed { place with line := number } text reason
  | .unknownHandler place name => .unknownHandler { place with line := number } name
  | e => e

end LoadError

/-- Causes of failure that differ in the number of the line at most, where the one number belongs to
the other. -/
def SameCause (file : String) (P : Nat → Nat → Prop) (e e' : LoadError) : Prop :=
  ∃ n n', P n n' ∧ e.place? = some ⟨file, n⟩ ∧ e' = e.atLine n'

/-! ### Files read in step -/

section InStep
variable {c : Category} {handlers : Registry} {P : Nat → Nat → Prop} {α β α' β' : Type}

/-- Readings that both come to something, or both fail with the same cause. -/
inductive InStep (c : Category) (P : Nat → Nat → Prop) (R : α → β → Prop) :
    Except LoadError α → Except LoadError β → Prop
  | ok {a : α} {b : β} (h : R a b) : InStep c P R (.ok a) (.ok b)
  | error {e e' : LoadError} (h : SameCause c.fileName P e e') : InStep c P R (.error e) (.error e')

lemma InStep.bind {R : α → β → Prop} {S : α' → β' → Prop} {x : Except LoadError α}
    {y : Except LoadError β} {f : α → Except LoadError α'} {g : β → Except LoadError β'}
    (h : InStep c P R x y) (hfg : ∀ a b, R a b → InStep c P S (f a) (g b)) :
    InStep c P S (x.bind f) (y.bind g) := by
  cases h with
  | ok h => exact hfg _ _ h
  | error h => exact .error h

/-- The same open rule, opened at lines that belong together. -/
structure OpenRule.Matches (P : Nat → Nat → Prop) (o o' : OpenRule) : Prop where
  draft : o.draft = o'.draft
  line : P o.line o'.line

/-- The same rules are complete, and the same one is open. -/
structure Progress.Matches (P : Nat → Nat → Prop) (p p' : Progress) : Prop where
  done : p.done = p'.done
  current : Option.Rel (OpenRule.Matches P) p.current p'.current

namespace Progress
variable {p p' : Progress} {l l' : Line}

lemma Matches.close (h : p.Matches P p') : InStep c P (Matches P) (p.close c) (p'.close c) := by
  obtain ⟨done, current⟩ := p
  obtain ⟨done', current'⟩ := p'
  obtain ⟨rfl, hcurrent⟩ := h
  cases hcurrent with
  | none => exact .ok ⟨rfl, .none⟩
  | @some o o' ho =>
    obtain ⟨draft, line⟩ := o
    obtain ⟨draft', line'⟩ := o'
    obtain ⟨rfl, hline⟩ := ho
    simp only [Progress.close]
    split
    · exact .error ⟨line, line', hline, rfl, rfl⟩
    · exact .ok ⟨rfl, .none⟩

lemma sameCause_refuse {n n' : Nat} (h : P n n') (r : Draft) (text : String) (e : Refusal) :
    SameCause c.fileName P (refuse ⟨c.fileName, n⟩ r text e) (refuse ⟨c.fileName, n'⟩ r text e) := by
  refine ⟨n, n', h, ?_⟩
  cases e with
  | unknown => cases hp : r.isPacketRule <;> simp [refuse, hp, LoadError.place?, LoadError.atLine]
  | _ => exact ⟨rfl, rfl⟩

lemma inStep_direct (r : Draft) (h : l.Matches P l') :
    InStep c P Eq (direct c handlers r l) (direct c handlers r l') := by
  simp only [direct, ← h.text]
  split
  · exact .error (sameCause_refuse h.number r l.text _)
  · split
    · exact .ok rfl
    · exact .error ⟨l.number, l'.number, h.number, rfl, rfl⟩

/-- Lines that match take readings that match one line further, or end both. -/
lemma Matches.step (h : p.Matches P p') (hl : l.Matches P l') :
    InStep c P (Matches P) (p.step c handlers l) (p'.step c handlers l') := by
  simp only [Progress.step, ← hl.text]
  split
  case h_1 pattern _ =>
    apply (h.close (c := c)).bind
    intro q q' hq
    exact .ok ⟨hq.done, .some ⟨rfl, hl.number⟩⟩
  case h_2 =>
    obtain ⟨done, current⟩ := p
    obtain ⟨done', current'⟩ := p'
    obtain ⟨rfl, hcurrent⟩ := h
    cases hcurrent with
    | none => exact .error ⟨l.number, l'.number, hl.number, rfl, rfl⟩
    | @some o o' ho =>
      obtain ⟨draft, line⟩ := o
      obtain ⟨draft', line'⟩ := o'
      obtain ⟨rfl, hline⟩ := ho
      apply (inStep_direct draft hl).bind
      rintro r _ rfl
      exact .ok ⟨rfl, .some ⟨rfl, hline⟩⟩

lemma Matches.steps {ls ls' : List Line} (hls : List.Forall₂ (Line.Matches P) ls ls')
    (h : p.Matches P p') : InStep c P (Matches P) (p.steps c handlers ls) (p'.steps c handlers ls') := by
  induction hls generalizing p p' with
  | nil => exact .ok h
  | cons hl _ ih =>
    rw [steps_cons, steps_cons]
    exact (h.step hl).bind fun _ _ hq => ih hq

end Progress

lemma inStep_readRules {source source' : String}
    (h : List.Forall₂ (Line.Matches P) (linesOf source) (linesOf source')) :
    InStep c P Eq (readRules c handlers source) (readRules c handlers source') := by
  have hstart : Progress.Matches P {} {} := ⟨rfl, .none⟩
  apply (Progress.Matches.steps h hstart).bind
  intro p p' hp
  apply hp.close.bind
  intro q q' hq
  exact .ok hq.done

end InStep

/-- Files in which the same is said, line by line, have the same rules, or both fail for one cause.
The cause is about a line of each file, and before these two lines the same number of lines say
something. -/
theorem readRules_of_saidIn_eq (c : Category) (handlers : Registry) (source source' : String)
    (h : saidIn source = saidIn source') :
    (∃ rules, readRules c handlers source = .ok rules ∧ readRules c handlers source' = .ok rules) ∨
    ∃ e k n n', readRules c handlers source = .error e ∧ e.place? = some ⟨c.fileName, n⟩ ∧
      readRules c handlers source' = .error (e.atLine n') ∧
      SaysAt source k n ∧ SaysAt source' k n' := by
  have hsame := @inStep_readRules c handlers _ _ _ (forall₂_linesOf h)
  generalize readRules c handlers source = x, readRules c handlers source' = y at hsame ⊢
  cases hsame with
  | ok h => exact .inl ⟨_, rfl, by rw [h]⟩
  | error h =>
    obtain ⟨n, n', ⟨k, hk, hk'⟩, hplace, rfl⟩ := h
    exact .inr ⟨_, k, n, n', rfl, hplace, rfl, hk, hk'⟩

/-- A rule that occurs twice is found at the end of a file, at the line that opened it, also where
that line is indented, ends as on other systems and has blank lines and a comment above it. -/
theorem readRules_of_saidIn_eq_indented :
    let plain := "match foo\nthen deny\nmatch foo\nthen deny\n"
    let spaced := "# rules\r\n\r\nmatch foo\r\n\tthen deny  \r\n\r\n  match foo\r\n# again\r\nthen deny"
    let twice (line : Nat) : LoadError := .duplicateRule ⟨"chat.txt", line⟩ (Rule.short { pattern := "foo" })
    saidIn plain = saidIn spaced ∧
      readRules .chat {} plain = .error (twice 3) ∧ readRules .chat {} spaced = .error (twice 6) ∧
      ∃ k number, readRules .chat {} spaced = .error ((twice 3).atLine number) ∧
        SaysAt plain k 3 ∧ SaysAt spaced k number := by
  intro plain spaced twice
  have hsaid : saidIn plain = saidIn spaced := by decide +kernel
  have hplain : readRules .chat {} plain = .error (twice 3) := by decide +kernel
  refine ⟨hsaid, hplain, by decide +kernel, ?_⟩
  obtain ⟨rules, hrules, -⟩ | ⟨e, k, n, n', he, hplace, he', hk, hk'⟩ :=
    readRules_of_saidIn_eq .chat {} plain spaced hsaid
  · rw [hplain] at hrules
    contradiction
  · obtain rfl : twice 3 = e := Except.error.inj (hplain.symm.trans he)
    obtain rfl : 3 = n := congrArg Place.line (Option.some.inj hplace)
    exact ⟨k, n', he', hk, hk'⟩

end Moderation
