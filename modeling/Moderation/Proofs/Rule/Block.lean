import Moderation.Proofs.Rule.Field
import Moderation.Proofs.Rule.Form
import Moderation.Rule.Reader

/-!
Files of rules as sequences of blocks. A block is a line that opens a rule and the lines after it up to
the next such line. A file is read exactly if every block has directives in the right form, none of
them twice, and no two blocks give rules with one description; otherwise the error is that of the
first offence in the file.
-/
namespace Moderation
open Moderation.Text

/-- A line that opens a rule with a pattern, and the lines that belong to the rule. -/
structure Block where
  head : Line
  pattern : String
  body : List Line

/-- How lines fall into blocks: every line that opens a rule begins a block, and the lines before the
first of them stray. -/
structure Splits (ls stray : List Line) (blocks : List Block) : Prop where
  lines : stray ++ blocks.flatMap (fun b => b.head :: b.body) = ls
  stray : ∀ l ∈ stray, after Progress.opening l.text = none
  head : ∀ b ∈ blocks, after Progress.opening b.head.text = some b.pattern
  body : ∀ b ∈ blocks, ∀ l ∈ b.body, after Progress.opening l.text = none

/-- The form of a directive in the rules of a category. -/
def Category.Form (c : Category) (handlers : Registry) (text : String) (d : Directive) : Prop :=
  if c = .packet then Directive.PacketForm text d else Directive.StandardForm c handlers text d

/-- Why a line is no directive in the rules of a category. -/
def Category.Refuses (c : Category) (handlers : Registry) (text : String) (e : Refusal) : Prop :=
  if c = .packet then Directive.PacketRefusal text e
  else Directive.StandardRefusal c handlers text e

/-- Lines read as directives, no two of them about one field. -/
def Category.Reads (c : Category) (handlers : Registry) (ls : List Line) (ds : List Directive) : Prop :=
  List.Forall₂ (fun l d => c.Form handlers l.text d) ls ds ∧ (ds.map (·.field)).Nodup

/-- What is wrong with a line after the directives of a rule: it has not the form of a directive, or
it sets a field once more. -/
inductive LineFault (c : Category) (handlers : Registry) (r : Draft) (ds : List Directive) (l : Line) :
    LoadError → Prop
  | refused {e : Refusal} (h : c.Refuses handlers l.text e) :
    LineFault c handlers r ds l (Progress.refuse ⟨c.fileName, l.number⟩ r l.text e)
  | repeated {d : Directive} (h : c.Form handlers l.text d) (twice : d.field ∈ ds.map (·.field)) :
    LineFault c handlers r ds l (.duplicateDirective ⟨c.fileName, l.number⟩ d.title r.build.short)

namespace Block

/-- The lines before the first block, and the blocks. -/
def split : List Line → List Line × List Block
  | [] => ([], [])
  | l :: ls =>
    match after Progress.opening l.text with
    | some pattern => ([], ⟨l, pattern, (split ls).1⟩ :: (split ls).2)
    | none => (l :: (split ls).1, (split ls).2)

/-- What is written in a block with given directives. -/
def draft (c : Category) (b : Block) (ds : List Directive) : Draft :=
  ds.foldl Draft.set (Draft.opened c b.pattern)

/-- A block builds a rule. Nothing but the block itself matters for that. -/
def Builds (c : Category) (handlers : Registry) (b : Block) (r : Rule) : Prop :=
  ∃ ds, c.Reads handlers b.body ds ∧ r = (b.draft c ds).build

/-- The first line of a block at which something is wrong. -/
def Faulty (c : Category) (handlers : Registry) (b : Block) (e : LoadError) : Prop :=
  ∃ before l after ds, b.body = before ++ l :: after ∧ c.Reads handlers before ds ∧
    LineFault c handlers (b.draft c ds) ds l e

/-- A block that builds a rule with the description of an earlier one. The error names the line that
opens the block. -/
def Repeats (c : Category) (handlers : Registry) (earlier : List Block) (b : Block) (e : LoadError) :
    Prop :=
  ∃ r, b.Builds c handlers r ∧
    (∃ x ∈ earlier, ∃ s, x.Builds c handlers s ∧ s.describe = r.describe) ∧
    e = .duplicateRule ⟨c.fileName, b.head.number⟩ r.short

/-- What is wrong with a block. A repeated rule is noticed when the block ends, after its lines. -/
def Offends (c : Category) (handlers : Registry) (earlier : List Block) (b : Block) (e : LoadError) :
    Prop :=
  b.Faulty c handlers e ∨ b.Repeats c handlers earlier e

end Block

/-- The earliest offence in a file: a line before the first block, or the first block at which
something is wrong. -/
def FirstOffence (c : Category) (handlers : Registry) (stray : List Line) (blocks : List Block)
    (e : LoadError) : Prop :=
  match stray with
  | l :: _ => e = .operatorOutsideRule ⟨c.fileName, l.number⟩ l.text
  | [] => ∃ before b after, blocks = before ++ b :: after ∧
      (∀ x y z, before = x ++ y :: z → ∀ e', ¬y.Offends c handlers x e') ∧
      b.Offends c handlers before e

theorem splits_split (ls : List Line) : Splits ls (Block.split ls).1 (Block.split ls).2 := by
  induction ls with
  | nil => exact ⟨rfl, by simp [Block.split], by simp [Block.split], by simp [Block.split]⟩
  | cons l ls ih =>
    cases h : after Progress.opening l.text with
    | none =>
      simp only [Block.split, h]
      refine ⟨by simp [ih.lines], ?_, ih.head, ih.body⟩
      rintro x (_ | ⟨_, hx⟩)
      · exact h
      · exact ih.stray x hx
    | some pattern =>
      simp only [Block.split, h]
      refine ⟨by simpa using ih.lines, by simp, ?_, ?_⟩
      · rintro b (_ | ⟨_, hb⟩)
        · exact h
        · exact ih.head b hb
      · rintro b (_ | ⟨_, hb⟩)
        · exact ih.stray
        · exact ih.body b hb

lemma split_append {ls : List Line} (h : ∀ l ∈ ls, after Progress.opening l.text = none)
    (rest : List Line) :
    Block.split (ls ++ rest) = (ls ++ (Block.split rest).1, (Block.split rest).2) := by
  induction ls with
  | nil => rfl
  | cons l ls ih =>
    obtain ⟨hl, hls⟩ := List.forall_mem_cons.1 h
    simp [Block.split, hl, ih hls]

/-- Lines fall into blocks in one way only. -/
theorem Splits.eq_split {ls stray : List Line} {blocks : List Block} (h : Splits ls stray blocks) :
    Block.split ls = (stray, blocks) := by
  obtain ⟨rfl, hstray, hhead, hbody⟩ := h
  have hblocks : Block.split (blocks.flatMap fun b => b.head :: b.body) = ([], blocks) := by
    induction blocks with
    | nil => rfl
    | cons b bs ih =>
      obtain ⟨hb, hhead⟩ := List.forall_mem_cons.1 hhead
      obtain ⟨hl, hbody⟩ := List.forall_mem_cons.1 hbody
      simp [Block.split, hb, split_append hl, ih hhead hbody]
  rw [split_append hstray, hblocks, List.append_nil]

/-! ### Lines -/

section Lines

variable {c : Category} {handlers : Registry}

lemma foldlM_eq_error_iff {α σ ε : Type} {f : σ → α → Except ε σ} {s : σ} {l : List α} {e : ε} :
    l.foldlM f s = .error e ↔ ∃ before a after t, l = before ++ a :: after ∧
      before.foldlM f s = .ok t ∧ f t a = .error e := by
  induction l generalizing s with
  | nil => simp [pure, Except.pure]
  | cons y l ih =>
    rw [List.foldlM_cons]
    constructor
    · intro h
      cases hy : f s y with
      | error e' =>
        rw [hy] at h
        exact ⟨[], y, l, s, rfl, rfl, hy.trans h⟩
      | ok t =>
        rw [hy] at h
        obtain ⟨before, a, after, u, rfl, hb, ha⟩ := ih.1 h
        refine ⟨y :: before, a, after, u, rfl, ?_, ha⟩
        rw [List.foldlM_cons, hy]
        exact hb
    · rintro ⟨before, a, after, u, hl, hb, ha⟩
      cases before with
      | nil =>
        obtain ⟨rfl, rfl⟩ := List.cons.inj hl
        obtain rfl : s = u := Except.ok.inj hb
        rw [ha]
        rfl
      | cons x before =>
        obtain ⟨rfl, rfl⟩ := List.cons.inj hl
        rw [List.foldlM_cons] at hb
        cases hy : f s y with
        | error e' => rw [hy] at hb; cases hb
        | ok t =>
          rw [hy] at hb
          exact ih.2 ⟨before, a, after, u, rfl, hb, ha⟩

lemma forPackets_of_form {text : String} {d : Directive} (h : c.Form handlers text d) :
    d.forPackets = decide (c = .packet) := by
  simp only [Category.Form] at h
  split at h
  · rename_i hc
    cases h <;> simp [hc, Directive.forPackets]
  · rename_i hc
    cases h <;> simp [hc, Directive.forPackets]

/-- What a line is read as in the rules of a category. -/
def Category.read (c : Category) (handlers : Registry) (text : String) : Except Refusal Directive :=
  if c = .packet then Directive.ofPacketText text else Directive.ofText c handlers text

lemma read_eq_ok_iff {text : String} {d : Directive} :
    c.read handlers text = .ok d ↔ c.Form handlers text d := by
  simp only [Category.read, Category.Form]
  split
  · exact Directive.ofPacketText_eq_ok_iff
  · exact Directive.ofText_eq_ok_iff

lemma read_eq_error_iff {text : String} {e : Refusal} :
    c.read handlers text = .error e ↔ c.Refuses handlers text e := by
  simp only [Category.read, Category.Refuses]
  split
  · exact Directive.ofPacketText_eq_error_iff
  · exact Directive.ofText_eq_error_iff

variable {r s : Draft} {l : Line} {e : LoadError}

lemma direct_eq (hr : r.isPacketRule = decide (c = .packet)) (l : Line) :
    Progress.direct c handlers r l =
      match c.read handlers l.text with
      | .error e => .error (Progress.refuse ⟨c.fileName, l.number⟩ r l.text e)
      | .ok d =>
        if r.isSet d then .error (.duplicateDirective ⟨c.fileName, l.number⟩ d.title r.build.short)
        else .ok (r.set d) := by
  have hc : (if r.isPacketRule = true then Directive.ofPacketText l.text
      else Directive.ofText c handlers l.text) = c.read handlers l.text := by
    simp only [hr, decide_eq_true_eq, Category.read]
  simp only [Progress.direct, hc, Draft.add?]
  cases c.read handlers l.text with
  | error e => rfl
  | ok d => cases h : r.isSet d <;> simp [h]

lemma direct_eq_ok_iff (hr : r.isPacketRule = decide (c = .packet)) :
    Progress.direct c handlers r l = .ok s ↔
      ∃ d, c.Form handlers l.text d ∧ r.isSet d = false ∧ s = r.set d := by
  rw [direct_eq hr]
  constructor
  · intro h
    split at h
    · cases h
    · rename_i d hd
      split at h
      · cases h
      · rename_i hs
        exact ⟨d, read_eq_ok_iff.1 hd, by simpa using hs, (Except.ok.inj h).symm⟩
  · rintro ⟨d, hd, hs, rfl⟩
    simp [read_eq_ok_iff.2 hd, hs]

lemma direct_eq_error_iff (hr : r.isPacketRule = decide (c = .packet)) :
    Progress.direct c handlers r l = .error e ↔
      (∃ x, c.Refuses handlers l.text x ∧
        e = Progress.refuse ⟨c.fileName, l.number⟩ r l.text x) ∨
      ∃ d, c.Form handlers l.text d ∧ r.isSet d = true ∧
        e = .duplicateDirective ⟨c.fileName, l.number⟩ d.title r.build.short := by
  rw [direct_eq hr]
  constructor
  · intro h
    split at h
    · rename_i x hx
      exact Or.inl ⟨x, read_eq_error_iff.1 hx, (Except.error.inj h).symm⟩
    · rename_i d hd
      split at h
      · rename_i hs
        exact Or.inr ⟨d, read_eq_ok_iff.1 hd, hs, (Except.error.inj h).symm⟩
      · cases h
  · rintro (⟨x, hx, rfl⟩ | ⟨d, hd, hs, rfl⟩)
    · rw [read_eq_error_iff.2 hx]
    · rw [read_eq_ok_iff.2 hd]
      simp [hs]

lemma foldlM_direct_eq_ok_iff {ls : List Line} (hr : r.isPacketRule = decide (c = .packet)) :
    ls.foldlM (Progress.direct c handlers) r = .ok s ↔
      ∃ ds, c.Reads handlers ls ds ∧ (∀ d ∈ ds, r.isSet d = false) ∧ s = ds.foldl Draft.set r := by
  induction ls generalizing r with
  | nil =>
    simp only [List.foldlM_nil, Category.Reads, List.forall₂_nil_left_iff]
    constructor
    · intro h
      obtain rfl : r = s := Except.ok.inj h
      exact ⟨[], ⟨rfl, by simp⟩, by simp, rfl⟩
    · rintro ⟨ds, ⟨rfl, -⟩, -, rfl⟩
      rfl
  | cons l ls ih =>
    have hset {d : Directive} (hd : c.Form handlers l.text d) :
        (r.set d).isPacketRule = decide (c = .packet) := by
      simp [hr, forPackets_of_form hd]
    rw [List.foldlM_cons]
    constructor
    · intro h
      cases hl : Progress.direct c handlers r l with
      | error e => rw [hl] at h; cases h
      | ok t =>
        rw [hl] at h
        obtain ⟨d, hd, hs, rfl⟩ := (direct_eq_ok_iff hr).1 hl
        obtain ⟨ds, ⟨hf, hn⟩, ho, rfl⟩ := (ih (hset hd)).1 h
        have hfresh : ∀ x ∈ ds, r.isSet x = false ∧ d.field ≠ x.field := fun x hx => by
          simpa [Draft.isSet_set] using ho x hx
        refine ⟨d :: ds, ⟨.cons hd hf, ?_⟩, ?_, rfl⟩
        · refine List.nodup_cons.2 ⟨?_, hn⟩
          intro hm
          obtain ⟨x, hx, he⟩ := List.mem_map.1 hm
          exact (hfresh x hx).2 he.symm
        · rintro x (_ | ⟨_, hx⟩)
          · exact hs
          · exact (hfresh x hx).1
    · rintro ⟨_, ⟨_ | ⟨hd, hf⟩, hn⟩, ho, rfl⟩
      rename_i d ds
      obtain ⟨hm, hn⟩ := List.nodup_cons.1 hn
      rw [(direct_eq_ok_iff hr).2 ⟨d, hd, ho d List.mem_cons_self, rfl⟩]
      refine (ih (hset hd)).2 ⟨ds, ⟨hf, hn⟩, ?_, rfl⟩
      intro x hx
      have hne : d.field ≠ x.field := fun he => hm (List.mem_map.2 ⟨x, hx, he.symm⟩)
      simp [Draft.isSet_set, hne, ho x (List.mem_cons_of_mem d hx)]

lemma isPacketRule_foldl_set {ls : List Line} {ds : List Directive}
    (hr : r.isPacketRule = decide (c = .packet))
    (h : List.Forall₂ (fun l d => c.Form handlers l.text d) ls ds) :
    (ds.foldl Draft.set r).isPacketRule = decide (c = .packet) := by
  induction h generalizing r with
  | nil => exact hr
  | cons hd _ ih => exact ih (by simp [hr, forPackets_of_form hd])

end Lines

/-! ### Blocks -/

namespace Block

variable {c : Category} {handlers : Registry} {b : Block} {r s : Rule} {e : LoadError}

/-- The rule of a block, or the first line of the block at which something is wrong. -/
def read (c : Category) (handlers : Registry) (b : Block) : Except LoadError Rule :=
  (b.body.foldlM (Progress.direct c handlers) (Draft.opened c b.pattern)).map Draft.build

lemma foldlM_direct_opened_eq_ok_iff {s : Draft} :
    b.body.foldlM (Progress.direct c handlers) (Draft.opened c b.pattern) = .ok s ↔
      ∃ ds, c.Reads handlers b.body ds ∧ s = b.draft c ds := by
  simp only [draft, foldlM_direct_eq_ok_iff (Draft.isPacketRule_opened c b.pattern),
    Draft.isSet_opened, implies_true, true_and]

lemma read_eq_ok_iff : b.read c handlers = .ok r ↔ b.Builds c handlers r := by
  rw [read, Builds]
  constructor
  · intro h
    cases hs : b.body.foldlM (Progress.direct c handlers) (Draft.opened c b.pattern) with
    | error e => rw [hs] at h; cases h
    | ok s =>
      obtain ⟨ds, hds, rfl⟩ := foldlM_direct_opened_eq_ok_iff.1 hs
      rw [hs] at h
      exact ⟨ds, hds, (Except.ok.inj h).symm⟩
  · rintro ⟨ds, hds, rfl⟩
    rw [foldlM_direct_opened_eq_ok_iff.2 ⟨ds, hds, rfl⟩]
    rfl

lemma isSet_draft {ds : List Directive} (d : Directive) :
    (b.draft c ds).isSet d = decide (d.field ∈ ds.map (·.field)) := by
  simp [draft, Draft.isSet_foldl_set]

lemma map_build_eq_error_iff {x : Except LoadError Draft} :
    x.map Draft.build = .error e ↔ x = .error e := by
  cases x <;> simp [Except.map]

lemma read_eq_error_iff : b.read c handlers = .error e ↔ b.Faulty c handlers e := by
  have hp := Draft.isPacketRule_opened c b.pattern
  rw [read, map_build_eq_error_iff, foldlM_eq_error_iff]
  constructor
  · rintro ⟨before, l, after, t, hb, ht, he⟩
    obtain ⟨ds, hd, -, rfl⟩ := (foldlM_direct_eq_ok_iff hp).1 ht
    refine ⟨before, l, after, ds, hb, hd, ?_⟩
    rcases (direct_eq_error_iff (isPacketRule_foldl_set hp hd.1)).1 he with
      ⟨x, hx, rfl⟩ | ⟨d, hf, hs, rfl⟩
    · exact .refused hx
    · exact .repeated hf (by simpa using (isSet_draft d).symm.trans hs)
  · rintro ⟨before, l, after, ds, hb, hd, hl⟩
    have ht := (foldlM_direct_eq_ok_iff hp).2 ⟨ds, hd, by simp, rfl⟩
    refine ⟨before, l, after, _, hb, ht, ?_⟩
    rw [direct_eq_error_iff (isPacketRule_foldl_set hp hd.1)]
    cases hl with
    | refused hx => exact Or.inl ⟨_, hx, rfl⟩
    | repeated hf twice =>
      exact Or.inr ⟨_, hf, (isSet_draft (b := b) (c := c) _).trans (by simpa using twice), rfl⟩

/-- A block builds one rule at most. -/
theorem Builds.unique (hr : b.Builds c handlers r) (hs : b.Builds c handlers s) : r = s := by
  rw [← read_eq_ok_iff] at hr hs
  exact Except.ok.inj (hr.symm.trans hs)

/-- Add a rule to those before it, unless one of them has its description. -/
def complete (c : Category) (done : List Rule) (r : Rule) (line : Nat) :
    Except LoadError (List Rule) :=
  if done.any (fun x => x.describe == r.describe) then
    .error (.duplicateRule ⟨c.fileName, line⟩ r.short)
  else .ok (done ++ [r])

/-- Add the rule of a block to those of the blocks before it. -/
def add (c : Category) (handlers : Registry) (done : List Rule) (b : Block) :
    Except LoadError (List Rule) :=
  (b.read c handlers).bind fun r => complete c done r b.head.number

lemma add_eq (c : Category) (handlers : Registry) (done : List Rule) (b : Block) :
    add c handlers done b =
      (b.body.foldlM (Progress.direct c handlers) (Draft.opened c b.pattern)).bind fun r =>
        complete c done r.build b.head.number := by
  rw [add, read]
  cases b.body.foldlM (Progress.direct c handlers) (Draft.opened c b.pattern) <;> rfl

lemma add_of_described {done : List Rule} (hr : b.read c handlers = .ok r)
    (h : ∃ x ∈ done, x.describe = r.describe) :
    add c handlers done b = .error (.duplicateRule ⟨c.fileName, b.head.number⟩ r.short) := by
  have ha : done.any (fun x => x.describe == r.describe) = true := by simpa using h
  simp [add, complete, hr, ha, Except.bind]

lemma add_of_not_described {done : List Rule} (hr : b.read c handlers = .ok r)
    (h : ∀ x ∈ done, x.describe ≠ r.describe) : add c handlers done b = .ok (done ++ [r]) := by
  have ha : done.any (fun x => x.describe == r.describe) = false := by simpa using h
  simp [add, complete, hr, ha, Except.bind]

lemma add_of_read_error (hr : b.read c handlers = .error e) (done : List Rule) :
    add c handlers done b = .error e := by
  simp [add, hr, Except.bind]

lemma add_eq_ok_iff {done rules : List Rule} : add c handlers done b = .ok rules ↔
    ∃ r, b.Builds c handlers r ∧ (∀ x ∈ done, x.describe ≠ r.describe) ∧ rules = done ++ [r] := by
  simp only [← read_eq_ok_iff]
  constructor
  · intro h
    cases hr : b.read c handlers with
    | error e => simp [add_of_read_error hr] at h
    | ok r =>
      by_cases hd : ∃ x ∈ done, x.describe = r.describe
      · simp [add_of_described hr hd] at h
      · have hn : ∀ x ∈ done, x.describe ≠ r.describe := fun x hx he => hd ⟨x, hx, he⟩
        rw [add_of_not_described hr hn] at h
        exact ⟨r, rfl, hn, (Except.ok.inj h).symm⟩
  · rintro ⟨r, hr, hn, rfl⟩
    exact add_of_not_described hr hn

lemma add_eq_error_iff {done : List Rule} : add c handlers done b = .error e ↔
    b.Faulty c handlers e ∨ ∃ r, b.Builds c handlers r ∧ (∃ x ∈ done, x.describe = r.describe) ∧
      e = .duplicateRule ⟨c.fileName, b.head.number⟩ r.short := by
  simp only [← read_eq_ok_iff, ← read_eq_error_iff]
  constructor
  · intro h
    cases hr : b.read c handlers with
    | error e' =>
      rw [add_of_read_error hr] at h
      obtain rfl : e' = e := Except.error.inj h
      exact Or.inl rfl
    | ok r =>
      by_cases hd : ∃ x ∈ done, x.describe = r.describe
      · rw [add_of_described hr hd] at h
        exact Or.inr ⟨r, rfl, hd, (Except.error.inj h).symm⟩
      · have hn : ∀ x ∈ done, x.describe ≠ r.describe := fun x hx he => hd ⟨x, hx, he⟩
        simp [add_of_not_described hr hn] at h
  · rintro (hr | ⟨r, hr, hd, rfl⟩)
    · exact add_of_read_error hr done
    · exact add_of_described hr hd

/-- Blocks are read exactly if each builds a rule and the rules are described differently. -/
lemma foldlM_add_eq_ok_iff {blocks : List Block} {done rules : List Rule} :
    blocks.foldlM (add c handlers) done = .ok rules ↔
      ∃ rs, List.Forall₂ (Builds c handlers) blocks rs ∧
        (∀ x ∈ done, ∀ y ∈ rs, x.describe ≠ y.describe) ∧
        rs.Pairwise (fun x y => x.describe ≠ y.describe) ∧ rules = done ++ rs := by
  induction blocks generalizing done with
  | nil =>
    constructor
    · intro h
      obtain rfl : done = rules := Except.ok.inj h
      exact ⟨[], .nil, by simp, .nil, by simp⟩
    · rintro ⟨_, _ | _, -, -, rfl⟩
      simp [pure, Except.pure]
  | cons b bs ih =>
    rw [List.foldlM_cons]
    constructor
    · intro h
      cases hb : add c handlers done b with
      | error e => rw [hb] at h; cases h
      | ok next =>
        rw [hb] at h
        obtain ⟨r, hr, hd, rfl⟩ := add_eq_ok_iff.1 hb
        obtain ⟨rs, hf, hx, hp, rfl⟩ := ih.1 h
        refine ⟨r :: rs, .cons hr hf, ?_, ?_, by simp⟩
        · rintro x hm y (_ | ⟨_, hy⟩)
          · exact hd x hm
          · exact hx x (List.mem_append_left [r] hm) y hy
        · exact List.pairwise_cons.2 ⟨hx r (by simp), hp⟩
    · rintro ⟨_, _ | ⟨hr, hf⟩, hx, hp, rfl⟩
      rename_i r rs
      obtain ⟨hrs, hp⟩ := List.pairwise_cons.1 hp
      rw [add_eq_ok_iff.2 ⟨r, hr, fun x hm => hx x hm r List.mem_cons_self, rfl⟩]
      refine ih.2 ⟨rs, hf, ?_, hp, by simp⟩
      -- the rule just added counts as an earlier one for the rest
      intro x hm y hy
      rcases List.mem_append.1 hm with hm | hm
      · exact hx x hm y (List.mem_cons_of_mem r hy)
      · obtain rfl : x = r := by simpa using hm
        exact hrs y hy

lemma mem_of_forall₂_builds {blocks : List Block} {rules : List Rule}
    (h : List.Forall₂ (Builds c handlers) blocks rules) :
    r ∈ rules ↔ ∃ b ∈ blocks, b.Builds c handlers r := by
  induction h with
  | nil => simp
  | @cons b s bs rs hb _ ih =>
    have hs : b.Builds c handlers r ↔ r = s := ⟨fun hr => hr.unique hb, fun hr => hr ▸ hb⟩
    simp [ih, hs]

lemma add_eq_error_iff_offends {earlier : List Block} {done : List Rule}
    (h : earlier.foldlM (add c handlers) [] = .ok done) :
    add c handlers done b = .error e ↔ b.Offends c handlers earlier e := by
  obtain ⟨rs, hf, -, -, rfl⟩ := foldlM_add_eq_ok_iff.1 h
  -- the rules read so far are those that the earlier blocks build
  have hm (r : Rule) : (∃ x ∈ done, x.describe = r.describe) ↔
      ∃ x ∈ earlier, ∃ s, x.Builds c handlers s ∧ s.describe = r.describe := by
    constructor
    · rintro ⟨s, hs, he⟩
      obtain ⟨x, hx, hb⟩ := (mem_of_forall₂_builds hf).1 hs
      exact ⟨x, hx, s, hb, he⟩
    · rintro ⟨x, hx, s, hb, he⟩
      exact ⟨s, (mem_of_forall₂_builds hf).2 ⟨x, hx, hb⟩, he⟩
  rw [add_eq_error_iff, Offends, Repeats]
  simp only [hm]

/-- Blocks are refused exactly for the first offence among them. -/
lemma foldlM_add_eq_error_iff {blocks : List Block} :
    blocks.foldlM (add c handlers) [] = .error e ↔
      ∃ before b after, blocks = before ++ b :: after ∧
        (∀ x y z, before = x ++ y :: z → ∀ e', ¬y.Offends c handlers x e') ∧
        b.Offends c handlers before e := by
  rw [foldlM_eq_error_iff]
  constructor
  · rintro ⟨before, b, after, done, hbs, hd, he⟩
    refine ⟨before, b, after, hbs, ?_, (add_eq_error_iff_offends hd).1 he⟩
    rintro x y z rfl e' ho
    -- an earlier offence would have stopped the loop before
    have hfail : (x ++ y :: z).foldlM (add c handlers) [] = .error e' := by
      cases hx : x.foldlM (add c handlers) [] with
      | error e => simp [List.foldlM_append, hx, bind, Except.bind] at hd
      | ok dx =>
        have hy := (add_eq_error_iff_offends hx).2 ho
        simp [List.foldlM_append, List.foldlM_cons, hx, hy, bind, Except.bind]
    cases hd.symm.trans hfail
  · rintro ⟨before, b, after, hbs, hno, ho⟩
    cases hd : before.foldlM (add c handlers) [] with
    | error e' =>
      obtain ⟨x, y, z, dx, hxyz, hx, hy⟩ := foldlM_eq_error_iff.1 hd
      exact absurd ((add_eq_error_iff_offends hx).1 hy) (hno x y z hxyz e')
    | ok done => exact ⟨before, b, after, done, hbs, hd, (add_eq_error_iff_offends hd).2 ho⟩

end Block

/-! ### Files -/

section Files

variable {c : Category} {handlers : Registry}

lemma close_open (done : List Rule) (o : OpenRule) :
    Progress.close c ⟨done, some o⟩ =
      (Block.complete c done o.draft.build o.line).map fun rules => ⟨rules, none⟩ := by
  simp only [Progress.close, Block.complete]
  split <;> rfl

/-- Reading line by line, with the open rule taken up and put back, comes to reading the rest of the
open block and then the blocks after it. -/
lemma steps_open (ls : List Line) (done : List Rule) (o : OpenRule) :
    ((Progress.steps c handlers ⟨done, some o⟩ ls).bind (Progress.close c)).map (·.done) =
      (((Block.split ls).1.foldlM (Progress.direct c handlers) o.draft).bind fun r =>
        Block.complete c done r.build o.line).bind
          ((Block.split ls).2.foldlM (Block.add c handlers)) := by
  induction ls generalizing done o with
  | nil =>
    simp only [steps_nil, Except.bind, close_open, Block.split, List.foldlM_nil, pure, Except.pure]
    cases Block.complete c done o.draft.build o.line <;> rfl
  | cons l ls ih =>
    rw [steps_cons]
    cases ho : after Progress.opening l.text with
    | none =>
      simp only [Progress.step, ho, Block.split, List.foldlM_cons]
      cases hd : Progress.direct c handlers o.draft l with
      | error e => rfl
      | ok r => exact ih done ⟨r, o.line⟩
    | some pattern =>
      -- the open rule is completed before the line itself is looked at
      simp only [Progress.step, ho, Block.split, List.foldlM_nil, List.foldlM_cons, close_open]
      cases hd : Block.complete c done o.draft.build o.line with
      | error e => simp [hd, Except.map, bind, Except.bind, pure, Except.pure]
      | ok rules =>
        have hc : ((pure o.draft : Except LoadError Draft).bind fun r =>
          Block.complete c done r.build o.line) = .ok rules := hd
        rw [hc]
        have hadd := Block.add_eq c handlers rules ⟨l, pattern, (Block.split ls).1⟩
        refine (ih rules ⟨Draft.opened c pattern, l.number⟩).trans ?_
        exact congrArg (fun x => Except.bind x _) hadd.symm

lemma readRules_eq (source : String) :
    readRules c handlers source =
      match (Block.split (linesOf source)).1 with
      | l :: _ => .error (.operatorOutsideRule ⟨c.fileName, l.number⟩ l.text)
      | [] => (Block.split (linesOf source)).2.foldlM (Block.add c handlers) [] := by
  have hr : readRules c handlers source =
      ((Progress.steps c handlers {} (linesOf source)).bind (Progress.close c)).map (·.done) := by
    simp only [readRules]
    cases Progress.steps c handlers {} (linesOf source) with
    | error e => rfl
    | ok p => cases h : p.close c <;> simp [h, bind, Except.bind, Except.map, pure, Except.pure]
  rw [hr]
  cases linesOf source with
  | nil => rfl
  | cons l ls =>
    rw [steps_cons]
    cases ho : after Progress.opening l.text with
    | none =>
      simp only [Progress.step, ho, Block.split]
      rfl
    | some pattern =>
      simp only [Progress.step, ho, Block.split, List.foldlM_cons]
      have hadd := Block.add_eq c handlers [] ⟨l, pattern, (Block.split ls).1⟩
      refine (steps_open ls [] ⟨Draft.opened c pattern, l.number⟩).trans ?_
      exact congrArg (fun x => Except.bind x _) hadd.symm

/-- The rules of a file are those of its blocks, if nothing strays and no two rules have the same
description. -/
theorem Splits.readRules_eq_ok_iff {source : String} {stray : List Line} {blocks : List Block}
    {rules : List Rule} (h : Splits (linesOf source) stray blocks) :
    readRules c handlers source = .ok rules ↔
      stray = [] ∧ List.Forall₂ (Block.Builds c handlers) blocks rules ∧
        rules.Pairwise fun r s => r.describe ≠ s.describe := by
  rw [readRules_eq, h.eq_split]
  cases stray with
  | nil => simp [Block.foldlM_add_eq_ok_iff]
  | cons l ls => simp

/-- Reading accepts exactly the files made of blocks: nothing before the first of them, every block
builds a rule, and no two rules have the same description. The rules are those of the blocks in their
order, and each depends on its block alone. Any other file is refused for its first offence. -/
theorem readRules_blockwise (c : Category) (handlers : Registry) (source : String) :
    ∃ stray blocks, Splits (linesOf source) stray blocks ∧
      (∀ ls bs, Splits (linesOf source) ls bs → ls = stray ∧ bs = blocks) ∧
      (∀ rules, readRules c handlers source = .ok rules ↔
        stray = [] ∧ List.Forall₂ (Block.Builds c handlers) blocks rules ∧
          rules.Pairwise fun r s => r.describe ≠ s.describe) ∧
      (∀ b r s, Block.Builds c handlers b r → Block.Builds c handlers b s → r = s) ∧
      ∀ e, readRules c handlers source = .error e ↔ FirstOffence c handlers stray blocks e := by
  refine ⟨_, _, splits_split (linesOf source), ?_, ?_, fun b r s => Block.Builds.unique, ?_⟩
  · intro ls bs h
    exact ⟨congrArg Prod.fst h.eq_split.symm, congrArg Prod.snd h.eq_split.symm⟩
  · intro rules
    rw [readRules_eq]
    cases (Block.split (linesOf source)).1 with
    | nil => simp [Block.foldlM_add_eq_ok_iff]
    | cons l ls => simp
  · intro e
    rw [readRules_eq]
    cases (Block.split (linesOf source)).1 with
    | nil => exact Block.foldlM_add_eq_error_iff
    | cons l ls => simp [FirstOffence, eq_comm]

end Files

end Moderation
