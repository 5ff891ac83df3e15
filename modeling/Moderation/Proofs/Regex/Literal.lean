import Mathlib.Data.List.Infix
import Mathlib.Tactic.Lemma
import Moderation.Proofs.Unicode.Lower
import Moderation.Regex.Compiled
import Moderation.Text.Split

/-!
Patterns that are words of ASCII letters and digits. Such a pattern is read as its characters in a row,
and with case ignored it has a match in a text in which the word stands, up to the case of letters. In
an ASCII text it has no other match.
-/
namespace Moderation

/-- Whether a word stands somewhere in a text, up to the case of ASCII letters. -/
def Text.Mentions (word text : List Char) : Prop :=
  ∃ part, part <:+: text ∧ equalIgnoringAsciiCase part word = true

lemma Text.mentions_iff {word text : List Char} : Mentions word text ↔
    ∃ t ∈ text.tails, equalIgnoringAsciiCase (t.take word.length) word = true := by
  constructor
  · rintro ⟨part, ⟨before, rest, rfl⟩, h⟩
    have hlen : word.length = part.length := by
      simpa [equalIgnoringAsciiCase] using congrArg List.length (eq_of_beq h).symm
    refine ⟨part ++ rest, (List.mem_tails _ _).2 ⟨before, by simp⟩, ?_⟩
    rw [hlen, List.take_left]
    exact h
  · rintro ⟨t, ht, h⟩
    exact ⟨_, (List.take_prefix _ t).isInfix.trans ((List.mem_tails _ _).1 ht).isInfix, h⟩

instance (word text : List Char) : Decidable (Text.Mentions word text) :=
  decidable_of_iff _ Text.mentions_iff.symm

namespace Regex
open Unicode Text

/-! ### Letters in either case -/

lemma toNat_lt_of_toLower {x : Char} (h : x.toLower.toNat < 128) : x.toNat < 128 := by
  by_contra hx
  have hlower : x.toLower = x := by
    refine dif_neg ?_
    rintro ⟨-, hle⟩
    exact hx (Nat.lt_of_le_of_lt (UInt32.le_iff_toNat_le.1 hle) (by decide))
  rw [hlower] at h
  exact hx h

/-- Of the characters that an ASCII character stands for, those in ASCII are the same letter. -/
lemma toLower_of_mem_variants {x : Char} {v : Nat} (hx : x.toNat < 128)
    (hv : v ∈ variants x.toNat) (hv' : (Char.ofNat v).toNat < 128) :
    (Char.ofNat v).toLower = x.toLower := by
  have h : ∀ n < 128, ∀ v ∈ variants n, (Char.ofNat v).toNat < 128 →
      (Char.ofNat v).toLower = (Char.ofNat n).toLower := by decide +kernel
  simpa using h x.toNat hx v hv hv'

lemma toNat_mem_variants {c x : Char} (hc : c.toNat < 128) (hx : x.toNat < 128)
    (h : c.toLower = x.toLower) : c.toNat ∈ variants x.toNat := by
  have hcase : c = c.toLower ∨ c = c.toLower.toUpper :=
    forall_ascii (P := fun c => c = c.toLower ∨ c = c.toLower.toUpper) (by decide +kernel) hc
  have hvariants : x.toLower.toNat ∈ variants x.toNat ∧
      x.toLower.toUpper.toNat ∈ variants x.toNat :=
    forall_ascii (P := fun x => x.toLower.toNat ∈ variants x.toNat ∧
      x.toLower.toUpper.toNat ∈ variants x.toNat) (by decide +kernel) hx
  rw [h] at hcase
  obtain hc | hc := hcase
  · rw [hc]
    exact hvariants.1
  · rw [hc]
    exact hvariants.2

/-- The set that is read for a character when case is ignored. -/
def CharSet.letter (c : Char) : CharSet := .folded (.single c)

lemma contains_letter_iff {c x : Char} : (CharSet.letter c).contains x = true ↔
    ∃ v ∈ variants x.toNat, (Char.ofNat v).toNat = c.toNat := by
  simp [CharSet.letter, CharSet.contains]

/-- A letter or digit is read as a set that has the letter in either case. -/
theorem contains_letter_of_toLower {c x : Char} (hc : isAsciiAlphanumeric c = true)
    (h : x.toLower = c.toLower) : (CharSet.letter c).contains x = true := by
  have hc := toNat_lt_of_alphanumeric hc
  have hlower : c.toLower.toNat < 128 :=
    forall_ascii (P := fun c => c.toLower.toNat < 128) (by decide +kernel) hc
  have hx : x.toNat < 128 := toNat_lt_of_toLower (h ▸ hlower)
  exact contains_letter_iff.2 ⟨c.toNat, toNat_mem_variants hc hx h.symm, by simp⟩

/-- No other ASCII character is in that set. -/
theorem toLower_of_contains_letter {c x : Char} (hc : isAsciiAlphanumeric c = true)
    (hx : x.toNat < 128) (h : (CharSet.letter c).contains x = true) : x.toLower = c.toLower := by
  obtain ⟨v, hv, hvc⟩ := contains_letter_iff.1 h
  obtain rfl : Char.ofNat v = c := Char.toNat_inj.1 hvc
  exact (toLower_of_mem_variants hx hv (toNat_lt_of_alphanumeric hc)).symm

/-! ### Reading a word -/

section Reading
open Reader
variable {s : Reading} {c : Char} {r : List Char}

lemma run_ahead (s : Reading) : ahead.run s = some (s.ahead, s) := rfl

lemma run_skipSpace (hs : s.flags.ignoreSpace = false) : skipSpace.run s = some ((), s) := by
  simp [skipSpace, flags, hs]

lemma run_readPrimitive (hc : isAsciiAlphanumeric c = true) (r : List Char) :
    (readPrimitive c r).run s =
      some (.set (s.flags.fold (.single c)), { s with ahead := r }) := by
  simp only [readPrimitive]
  split
  case h_5 => rfl
  all_goals exact absurd hc (by decide)

lemma run_readBranches_cons (hc : isAsciiAlphanumeric c = true) (ha : s.ahead = c :: r)
    (hs : s.flags.ignoreSpace = false) (fuel : Nat) (items : Items) :
    (readBranches (fuel + 1) [] items).run s =
      (readBranches fuel [] (some (.set (s.flags.fold (.single c))) :: items)).run
        { s with ahead := r } := by
  rw [readBranches, StateT.run_bind, run_skipSpace hs, Option.bind_eq_bind, Option.bind_some,
    StateT.run_bind, run_ahead, Option.bind_eq_bind, Option.bind_some, ha]
  split
  case h_10 h =>
    obtain ⟨rfl, rfl⟩ := List.cons.inj h
    rw [StateT.run_bind, run_readPrimitive hc]
    rfl
  case h_1 h => contradiction
  all_goals
    rename_i h
    exact absurd ((List.cons.inj h).1 ▸ hc) (by decide)

lemma run_readBranches_nil (ha : s.ahead = []) (hs : s.flags.ignoreSpace = false) (fuel : Nat)
    (items : Items) : (readBranches (fuel + 1) [] items).run s = some (branchOf items, s) := by
  rw [readBranches, StateT.run_bind, run_skipSpace hs, Option.bind_eq_bind, Option.bind_some,
    StateT.run_bind, run_ahead, Option.bind_eq_bind, Option.bind_some, ha]
  rfl

lemma run_readBranches_switch (fuel : Nat) (cs : List Char) :
    (readBranches (fuel + 1) [] []).run { ahead := '(' :: '?' :: 'i' :: ')' :: cs } =
      (readBranches fuel [] [none]).run { ahead := cs, flags := { ignoreCase := true } } := rfl

lemma run_readBranches_word {word : List Char} (hw : ∀ c ∈ word, isAsciiAlphanumeric c = true)
    (ha : s.ahead = word) (hs : s.flags.ignoreSpace = false) {fuel : Nat}
    (hfuel : word.length < fuel) (items : Items) :
    (readBranches fuel [] items).run s =
      some (branchOf ((word.map fun c => some (.set (s.flags.fold (.single c)))).reverse ++ items),
        { s with ahead := [] }) := by
  induction word generalizing s fuel items with
  | nil =>
    obtain ⟨n, rfl⟩ := Nat.exists_eq_add_one_of_ne_zero (Nat.ne_of_gt hfuel)
    obtain ⟨ahead, flags, groups, names, numbered⟩ := s
    obtain rfl : ahead = [] := ha
    exact run_readBranches_nil rfl hs n items
  | cons c word ih =>
    obtain ⟨hc, hw⟩ := List.forall_mem_cons.1 hw
    obtain ⟨n, rfl⟩ := Nat.exists_eq_add_one_of_ne_zero (Nat.ne_of_gt (Nat.zero_lt_of_lt hfuel))
    rw [run_readBranches_cons hc ha hs, ih (s := { s with ahead := word }) hw rfl hs
      (Nat.lt_of_succ_lt_succ hfuel)]
    simp

end Reading

/-- A pattern of the characters of a word in a row, each in either case. -/
def Node.literal (word : List Char) : Node := .sequence (word.map fun c => .set (.letter c))

lemma readStandard_literal {word : List Char} (hw : ∀ c ∈ word, isAsciiAlphanumeric c = true) :
    readStandard ("(?i)".toList ++ word) = some (.literal word, 0, []) := by
  have hrun : (readBranches (("(?i)".toList ++ word).length + 1) [] []).run
      { ahead := "(?i)".toList ++ word } =
        some (.literal word, { ahead := [], flags := { ignoreCase := true } }) := by
    refine (run_readBranches_switch _ word).trans ?_
    rw [run_readBranches_word hw rfl rfl (by simp; omega)]
    simp [branchOf, Node.literal, Flags.fold, CharSet.letter]
  simp only [readStandard, hrun, List.isEmpty_nil, if_true]

lemma subset_of_occurs {part text : List Char} (h : occurs part text = true) : part ⊆ text := by
  induction text with
  | nil => simp_all [occurs]
  | cons c r ih =>
    rw [occurs, Bool.or_eq_true] at h
    obtain h | h := h
    · exact (List.isPrefixOf_iff_prefix.1 h).subset
    · exact List.subset_cons_of_subset c (ih h)

lemma hasReference_eq_false {text : List Char} (h : '\\' ∉ text) : hasReference text = false := by
  fun_induction hasReference text <;> simp_all

lemma isExtended_literal {word : List Char} (hw : ∀ c ∈ word, isAsciiAlphanumeric c = true) :
    isExtended ("(?i)".toList ++ word) = false := by
  -- a character that is neither in the switch nor a letter or digit is not in the pattern
  have hnot {d : Char} (hd : d ∉ "(?i)".toList) (hd' : isAsciiAlphanumeric d = false) :
      d ∉ "(?i)".toList ++ word := by
    intro h
    obtain h | h := List.mem_append.1 h
    · exact hd h
    · rw [hw d h] at hd'
      contradiction
  have hsigns : ∀ sign ∈ extendedSigns, (sign.toList.any fun d =>
      !"(?i)".toList.contains d && !isAsciiAlphanumeric d) = true := by decide +kernel
  rw [isExtended, Bool.or_eq_false_iff]
  refine ⟨List.any_eq_false.2 fun sign hsign ho => ?_,
    hasReference_eq_false (hnot (by decide) (by decide))⟩
  obtain ⟨d, hmem, hd⟩ := List.any_eq_true.1 (hsigns sign hsign)
  rw [Bool.and_eq_true, Bool.not_eq_true', Bool.not_eq_true', List.contains_eq_mem,
    decide_eq_false_iff_not] at hd
  exact hnot hd.1 hd.2 (subset_of_occurs ho hmem)

/-- With case ignored a word is compiled to its characters in a row, unless it is too large. -/
theorem compile?_literal {library : Library} {word : List Char}
    (hw : ∀ c ∈ word, isAsciiAlphanumeric c = true)
    (hsize : library.refuses ("(?i)".toList ++ word) = false) (budget : Nat) :
    compile? library budget ("(?i)".toList ++ word) = some ⟨.literal word, [], false, 0⟩ := by
  simp only [compile?, isExtended_literal hw, compileStandard?, readStandard_literal hw,
    Library.node?, hsize, Bool.false_eq_true, if_false, Option.map_some, Option.some_or]

/-! ### Searching for a word -/

/-- Whether a text begins with characters of some sets, one after the other. -/
def spells : List CharSet → List Char → Bool
  | [], _ => true
  | _ :: _, [] => false
  | s :: ss, x :: xs => s.contains x && spells ss xs

section Search
variable {c d : Cursor} {n : Node}

lemma ends_set (s : CharSet) (c : Cursor) :
    (Node.set s).ends c = if spells [s] c.rest then [c.forward] else [] := by
  obtain ⟨before, rest, index, slots, first, origin⟩ := c
  cases rest with
  | nil => rfl
  | cons x r => simp [Node.ends, Cursor.next?, Cursor.forward, spells]

lemma ends_concat_of_ends (hn : n.ends c = [d]) {m : Node} (hm : (m.ends d).length ≤ 1) :
    (Node.concat n m).ends c = m.ends d := by
  rw [Node.ends, endsFromAll, hn, List.flatMap_singleton]
  match m.ends d, hm with
  | [], _ => rfl
  | [e], _ => rfl

lemma ends_concat_of_none (hn : n.ends c = []) (m : Node) : (Node.concat n m).ends c = [] := by
  simp [Node.ends, endsFromAll, hn, distinct]

lemma ends_foldl_of_none (hn : n.ends c = []) (ss : List CharSet) :
    ((ss.map .set).foldl .concat n).ends c = [] := by
  induction ss generalizing n with
  | nil => exact hn
  | cons s ss ih => exact ih (ends_concat_of_none hn _)

lemma rest_forward {x : Char} {r : List Char} (h : c.rest = x :: r) : c.forward.rest = r := by
  simp [Cursor.forward, Cursor.next?, h]

lemma spells_cons (s : CharSet) (ss : List CharSet) (c : Cursor) :
    spells (s :: ss) c.rest = (spells [s] c.rest && spells ss c.forward.rest) := by
  cases h : c.rest with
  | nil => rfl
  | cons x r => simp [spells, rest_forward h]

/-- Sets in a row, the first of which is tried already, have an end exactly if the text ahead of it
spells them. -/
lemma ends_foldl_ne_nil_iff {s : CharSet}
    (hn : n.ends c = if spells [s] d.rest then [d.forward] else []) (ss : List CharSet) :
    ((ss.map .set).foldl .concat n).ends c ≠ [] ↔ spells (s :: ss) d.rest = true := by
  induction ss generalizing n d s with
  | nil =>
    rw [List.map_nil, List.foldl_nil, hn]
    split <;> simp_all
  | cons t ss ih =>
    rw [spells_cons]
    by_cases hs : spells [s] d.rest = true
    · rw [if_pos hs] at hn
      have hnext : (Node.concat n (.set t)).ends c = (Node.set t).ends d.forward :=
        ends_concat_of_ends hn (by rw [ends_set]; split <;> simp)
      rw [hs, Bool.true_and, ← ih (hnext.trans (ends_set t d.forward))]
      rfl
    · rw [if_neg hs] at hn
      simpa [hs] using ends_foldl_of_none hn (t :: ss)

lemma ends_literal_ne_nil_iff {word : List Char} :
    (Node.literal word).ends c ≠ [] ↔ spells (word.map .letter) c.rest = true := by
  cases word with
  | nil => simp [Node.literal, Node.sequence, Node.ends, spells]
  | cons x word =>
    -- the first character is what the others come after
    have hrow : Node.literal (x :: word) =
        ((word.map CharSet.letter).map Node.set).foldl .concat (.set (.letter x)) := by
      simp [Node.literal, Node.sequence, Function.comp_def]
    rw [hrow, List.map_cons]
    exact ends_foldl_ne_nil_iff (ends_set _ c) _

/-- A pattern that has an end exactly where something holds of the text ahead is found exactly if that
holds of some end of the text. -/
lemma isSome_findFirst_iff {p : List Char → Prop} (h : ∀ c, n.ends c ≠ [] ↔ p c.rest) {fuel : Nat}
    (hfuel : c.rest.length < fuel) :
    (n.findFirst fuel c).isSome = true ↔ ∃ t, t <:+ c.rest ∧ p t := by
  induction fuel generalizing c with
  | zero => omega
  | succ fuel ih =>
    have hc := h { c with first := c.index }
    rw [Node.findFirst]
    cases he : n.ends { c with first := c.index } with
    | cons d ds =>
      have hp : p c.rest := hc.1 (by simp [he])
      simpa using ⟨c.rest, List.suffix_rfl, hp⟩
    | nil =>
      have hp : ¬p c.rest := fun hp => hc.2 hp he
      cases hr : c.rest with
      | nil =>
        rw [hr] at hp
        simp [hp]
      | cons x r =>
        rw [hr] at hp hfuel
        have hforward : c.forward.rest = r := rest_forward hr
        have hlen : c.forward.rest.length < fuel := by
          rw [hforward]
          exact Nat.lt_of_succ_lt_succ hfuel
        simp only [List.isEmpty_cons, Bool.false_eq_true, if_false, ih hlen, hforward]
        constructor
        · rintro ⟨t, ht, hpt⟩
          exact ⟨t, ht.trans (List.suffix_cons x r), hpt⟩
        · rintro ⟨t, ht, hpt⟩
          obtain rfl | ht := List.suffix_cons_iff.1 ht
          · exact absurd hpt hp
          · exact ⟨t, ht, hpt⟩

end Search

section Words
variable {word text : List Char}

lemma isMatch_literal (word text : List Char) : ∃ found,
    (⟨.literal word, [], false, 0⟩ : Compiled).isMatch text = some found ∧
      (found = true ↔ ∃ t, t <:+ text ∧ spells (word.map .letter) t = true) := by
  have hiff := isSome_findFirst_iff (n := .literal word) (c := Cursor.start text)
    (p := fun t => spells (word.map .letter) t = true) (fun c => ends_literal_ne_nil_iff)
    (Nat.lt_succ_self text.length)
  refine ⟨_, ?_, hiff⟩
  cases hfirst : (Node.literal word).findFirst (text.length + 1) (Cursor.start text) with
  | none | some _ =>
    rw [Cursor.start] at hfirst
    simp [Compiled.isMatch, Compiled.search, Cursor.start, hfirst]

lemma spells_of_toLower (hw : ∀ c ∈ word, isAsciiAlphanumeric c = true) {part : List Char}
    (h : part.map Char.toLower = word.map Char.toLower) (rest : List Char) :
    spells (word.map .letter) (part ++ rest) = true := by
  induction word generalizing part with
  | nil => simp [spells]
  | cons c word ih =>
    obtain ⟨hc, hw⟩ := List.forall_mem_cons.1 hw
    cases part with
    | nil => simp at h
    | cons x part =>
      obtain ⟨hx, h⟩ := List.cons.inj h
      simp [spells, contains_letter_of_toLower hc hx, ih hw h]

lemma exists_of_spells (hw : ∀ c ∈ word, isAsciiAlphanumeric c = true)
    (ht : ∀ x ∈ text, x.toNat < 128) (h : spells (word.map .letter) text = true) :
    ∃ part, part <+: text ∧ part.map Char.toLower = word.map Char.toLower := by
  induction word generalizing text with
  | nil => exact ⟨[], List.nil_prefix, rfl⟩
  | cons c word ih =>
    obtain ⟨hc, hw⟩ := List.forall_mem_cons.1 hw
    cases text with
    | nil => simp [spells] at h
    | cons x text =>
      obtain ⟨hx, ht⟩ := List.forall_mem_cons.1 ht
      simp only [List.map_cons, spells, Bool.and_eq_true] at h
      obtain ⟨part, hpart, hlower⟩ := ih hw ht h.2
      exact ⟨x :: part, List.cons_prefix_cons.2 ⟨rfl, hpart⟩,
        by simp [toLower_of_contains_letter hc hx h.1, hlower]⟩

/-- A word has a match in every text in which it stands, up to the case of letters. -/
theorem isMatch_literal_of_mentions (hw : ∀ c ∈ word, isAsciiAlphanumeric c = true)
    (h : Mentions word text) :
    (⟨.literal word, [], false, 0⟩ : Compiled).isMatch text = some true := by
  obtain ⟨part, ⟨before, after, rfl⟩, hpart⟩ := h
  obtain ⟨found, hfound, hiff⟩ := isMatch_literal word (before ++ part ++ after)
  have hspells := spells_of_toLower hw (by simpa [equalIgnoringAsciiCase] using hpart) after
  rw [hfound, hiff.2 ⟨part ++ after, ⟨before, by simp⟩, hspells⟩]

/-- In an ASCII text a word has no other match. -/
theorem isMatch_literal_of_not_mentions (hw : ∀ c ∈ word, isAsciiAlphanumeric c = true)
    (ht : ∀ x ∈ text, x.toNat < 128) (h : ¬Mentions word text) :
    (⟨.literal word, [], false, 0⟩ : Compiled).isMatch text = some false := by
  obtain ⟨found, hfound, hiff⟩ := isMatch_literal word text
  rw [hfound, Option.some.injEq, ← Bool.not_eq_true]
  intro hf
  obtain ⟨t, hsuffix, hspells⟩ := hiff.1 hf
  obtain ⟨part, hpart, hlower⟩ := exists_of_spells hw (fun x hx => ht x (hsuffix.subset hx)) hspells
  exact h ⟨part, hpart.isInfix.trans hsuffix.isInfix, by simp [equalIgnoringAsciiCase, hlower]⟩

end Words

end Regex

end Moderation
