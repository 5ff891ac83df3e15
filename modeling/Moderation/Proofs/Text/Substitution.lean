import Mathlib.Data.List.Infix
import Mathlib.Tactic.Lemma
import Moderation.Text.Split

/-!
Values put into a text for names. They are put in one name after the other, so that a value can be
changed by the names after its own. The same is had in a single pass, with each value already
changed in that way, unless texts that come together make up a name that neither of them has.
-/
namespace Moderation.Text

/-- Names, each with the value that is put in for it. -/
abbrev Substitutions := List (List Char × List Char)

/-- Whether a text ends within a name: it ends with a part of the name from its start. -/
def BreaksOff (names : List (List Char)) (cs : List Char) : Prop :=
  ∃ n ∈ names, ∃ p ∈ n.inits, p ≠ [] ∧ p ≠ n ∧ p <:+ cs
deriving Decidable

/-- Whether no name in a text comes after another one that is broken off. -/
def Apart (names : List (List Char)) (cs : List Char) : Prop :=
  ∀ n ∈ names, ∀ a ∈ cs.inits, a ++ n <+: cs → ¬BreaksOff names a
deriving Decidable

section Names
variable {names : List (List Char)} {n a b cs : List Char}

lemma BreaksOff.of_suffix (hs : a <:+ cs) (h : BreaksOff names a) : BreaksOff names cs := by
  obtain ⟨m, hm, p, hp, hne, hpm, hpa⟩ := h
  exact ⟨m, hm, p, hp, hne, hpm, hpa.trans hs⟩

lemma BreaksOff.mono {names' : List (List Char)} (hsub : names ⊆ names') (h : BreaksOff names cs) :
    BreaksOff names' cs := by
  obtain ⟨m, hm, hp⟩ := h
  exact ⟨m, hsub hm, hp⟩

/-- A text that does not end within a name begins with a name exactly if it does so with any text
after it. -/
lemma prefix_append_iff (h : ¬BreaksOff names a) (ha : a ≠ []) (hn : n ∈ names) :
    n <+: a ++ b ↔ n <+: a := by
  refine ⟨fun hp => ?_, fun hp => hp.trans (List.prefix_append a b)⟩
  obtain hp | hp := List.prefix_or_prefix_of_prefix hp (List.prefix_append a b)
  · exact hp
  · by_contra hna
    have hne : a ≠ n := fun he => hna (by rw [he])
    exact h ⟨n, hn, a, (List.mem_inits a n).2 hp, ha, hne, List.suffix_rfl⟩

lemma not_breaksOff_append (ha : ¬BreaksOff names a) (hb : ¬BreaksOff names b) :
    ¬BreaksOff names (a ++ b) := by
  rintro ⟨m, hm, p, hp, hne, hpm, x, hx⟩
  rw [List.mem_inits] at hp
  obtain ⟨q, rfl, rfl⟩ | ⟨q, rfl, rfl⟩ := List.append_eq_append_iff.1 hx
  · by_cases hq : q = []
    · subst hq
      exact hb ⟨m, hm, b, (List.mem_inits _ _).2 hp, hne, hpm, List.suffix_rfl⟩
    · -- the part of the name that is in the first text is no whole name
      have hqm : q <+: m := (List.prefix_append q b).trans hp
      have hqne : q ≠ m := by
        rintro rfl
        exact hpm (hp.eq_of_length_le (List.prefix_append q b).length_le)
      exact ha ⟨m, hm, q, (List.mem_inits _ _).2 hqm, hq, hqne, List.suffix_append x q⟩
  · exact hb ⟨m, hm, p, (List.mem_inits _ _).2 hp, hne, hpm, List.suffix_append q p⟩

lemma Apart.mono {names' : List (List Char)} (hsub : names' ⊆ names) (h : Apart names cs) :
    Apart names' cs :=
  fun m hm c hc hp hbr => h m (hsub hm) c hc hp (hbr.mono hsub)

lemma Apart.of_append_left (h : Apart names (a ++ b)) : Apart names a := by
  intro m hm c hc hp
  have hab : a <+: a ++ b := List.prefix_append a b
  exact h m hm c ((List.mem_inits _ _).2 (((List.mem_inits _ _).1 hc).trans hab)) (hp.trans hab)

lemma Apart.of_append_right (h : Apart names (a ++ b)) : Apart names b := by
  intro m hm c hc hp hbr
  refine h m hm (a ++ c) ?_ ?_ (hbr.of_suffix (List.suffix_append a c))
  · rw [List.mem_inits] at hc ⊢
    exact (List.prefix_append_right_inj a).2 hc
  · rw [List.append_assoc]
    exact (List.prefix_append_right_inj a).2 hp

lemma Apart.not_breaksOff (h : Apart names (a ++ n ++ b)) (hn : n ∈ names) : ¬BreaksOff names a :=
  h n hn a ((List.mem_inits _ _).2 ((List.prefix_append a n).trans (List.prefix_append _ b)))
    (List.prefix_append _ b)

lemma Apart.append (ha : Apart names a) (hna : ¬BreaksOff names a) (hb : Apart names b) :
    Apart names (a ++ b) := by
  intro m hm c hc hp
  rw [List.mem_inits] at hc
  obtain ⟨d, hd⟩ | ⟨d, rfl⟩ := List.prefix_or_prefix_of_prefix (List.prefix_append a b) hc
  · -- the name begins in the second text
    subst hd
    rw [List.append_assoc, List.prefix_append_right_inj] at hp
    rw [List.prefix_append_right_inj] at hc
    exact not_breaksOff_append hna (hb m hm d ((List.mem_inits _ _).2 hc) hp)
  · by_cases hd : d = []
    · subst hd
      rw [List.append_nil] at hna
      exact hna
    · -- the name begins in the first text, and so it ends there
      rw [List.append_assoc, List.prefix_append_right_inj] at hp
      have hnd : ¬BreaksOff names d := fun hbr => hna (hbr.of_suffix (List.suffix_append c d))
      have hmd : m <+: d := (prefix_append_iff hnd hd hm).1 hp
      exact ha m hm c ((List.mem_inits _ _).2 (List.prefix_append c d))
        ((List.prefix_append_right_inj c).2 hmd)

lemma exists_first_place (hn : n ≠ []) (h : n <:+: cs) :
    ∃ a b, cs = a ++ n ++ b ∧ ¬n <:+: a := by
  induction cs with
  | nil => exact absurd (List.infix_nil.1 h) hn
  | cons c r ih =>
    by_cases hp : n <+: c :: r
    · obtain ⟨b, hb⟩ := hp
      exact ⟨[], b, by simpa using hb.symm, fun hi => hn (List.infix_nil.1 hi)⟩
    · obtain ⟨a, b, rfl, ha⟩ := ih ((List.infix_cons_iff.1 h).resolve_left hp)
      refine ⟨c :: a, b, rfl, fun hi => ?_⟩
      obtain hi | hi := List.infix_cons_iff.1 hi
      · exact hp (hi.trans ⟨n ++ b, by simp⟩)
      · exact ha hi

/-- What holds of all texts without a name, and of a text with the name as soon as it holds of what
follows the first place of the name, holds of all texts. -/
lemma infix_induction (hn : n ≠ []) {P : List Char → Prop} (without : ∀ cs, ¬n <:+: cs → P cs)
    (around : ∀ a b, ¬n <:+: a → P b → P (a ++ n ++ b)) (cs : List Char) : P cs := by
  induction hlen : cs.length using Nat.strong_induction_on generalizing cs with
  | _ k ih =>
    subst hlen
    by_cases h : n <:+: cs
    · obtain ⟨a, b, rfl, ha⟩ := exists_first_place hn h
      have hpos : 0 < n.length := List.length_pos_iff.2 hn
      exact around a b ha (ih b.length (by simp only [List.length_append]; omega) b rfl)
    · exact without cs h

end Names

namespace Substitutions

def names (subs : Substitutions) : List (List Char) := subs.map Prod.fst

/-- A text with the values put in one name after the other. -/
def inTurn (subs : Substitutions) (cs : List Char) : List Char :=
  subs.foldl (fun text s => replaceText s.1 s.2 text) cs

/-- The name that a text begins with, and its value. -/
def here (subs : Substitutions) (cs : List Char) : Option (List Char × List Char) :=
  subs.find? (·.1.isPrefixOf cs)

/-- A text with the values put in from left to right; `skip` characters still belong to the name
before. -/
def pass (subs : Substitutions) : (skip : Nat) → List Char → List Char
  | _, [] => []
  | k + 1, _ :: r => pass subs k r
  | 0, c :: r =>
    match subs.here (c :: r) with
    | some s => s.2 ++ pass subs (s.1.length - 1) r
    | none => c :: pass subs 0 r

/-- A text with all values put in at once: what was put in is not looked at again. -/
def atOnce (subs : Substitutions) (cs : List Char) : List Char := pass subs 0 cs

/-- The names with what comes of their values in the end: the later names are put in there too. -/
def settled : Substitutions → Substitutions
  | [] => []
  | (n, v) :: later => (n, inTurn later v) :: settled later

/-- Whether no value makes up a later name together with the text around it. -/
def Unmixed : Substitutions → Prop
  | [] => True
  | (_, v) :: later => Apart (names later) v ∧ ¬BreaksOff (names later) v ∧ Unmixed later

instance decidableUnmixed : (subs : Substitutions) → Decidable subs.Unmixed
  | [] => .isTrue trivial
  | (_, v) :: later =>
    have := decidableUnmixed later
    inferInstanceAs (Decidable (Apart (names later) v ∧ ¬BreaksOff (names later) v ∧ Unmixed later))

/-- Whether no value is changed by the names after its own. -/
def Unchanged : Substitutions → Prop
  | [] => True
  | (_, v) :: later => inTurn later v = v ∧ Unchanged later

instance decidableUnchanged : (subs : Substitutions) → Decidable subs.Unchanged
  | [] => .isTrue trivial
  | (_, v) :: later =>
    have := decidableUnchanged later
    inferInstanceAs (Decidable (inTurn later v = v ∧ Unchanged later))

variable {subs : Substitutions} {n v a b cs : List Char}

@[simp] theorem names_nil : names [] = [] := rfl
@[simp] theorem names_cons (s : List Char × List Char) :
    names (s :: subs) = s.1 :: names subs := rfl

@[simp] theorem inTurn_nil (cs : List Char) : inTurn [] cs = cs := rfl
@[simp] theorem inTurn_cons (n v : List Char) (subs : Substitutions) (cs : List Char) :
    inTurn ((n, v) :: subs) cs = inTurn subs (replaceText n v cs) := rfl

@[simp] theorem names_settled (subs : Substitutions) : names (settled subs) = names subs := by
  induction subs with
  | nil => rfl
  | cons s later ih => rw [settled, names_cons, names_cons, ih]

lemma settled_of_unchanged (h : Unchanged subs) : settled subs = subs := by
  induction subs with
  | nil => rfl
  | cons s later ih =>
    obtain ⟨hv, hlater⟩ := h
    rw [settled, hv, ih hlater]

lemma inTurn_append (subs more : Substitutions) (cs : List Char) :
    inTurn (subs ++ more) cs = inTurn more (inTurn subs cs) := List.foldl_append

/-! ### One pass -/

@[simp] theorem here_nil (cs : List Char) : here [] cs = none := rfl

@[simp] theorem atOnce_empty (subs : Substitutions) : atOnce subs [] = [] := by rw [atOnce, pass]

lemma here_cons (n v : List Char) (subs : Substitutions) (cs : List Char) :
    here ((n, v) :: subs) cs = if n <+: cs then some (n, v) else here subs cs := by
  by_cases h : n <+: cs
  · rw [if_pos h]
    exact List.find?_cons_of_pos (List.isPrefixOf_iff_prefix.2 h)
  · rw [if_neg h]
    exact List.find?_cons_of_neg (by simpa using h)

lemma prefix_of_here {s : List Char × List Char} (h : subs.here cs = some s) : s.1 <+: cs := by
  have hs := List.find?_some h
  exact List.isPrefixOf_iff_prefix.1 hs

/-- The name at the start is the same whatever follows, if the text does not end within a name. -/
lemma here_append (h : ¬BreaksOff subs.names a) (ha : a ≠ []) (b : List Char) :
    subs.here (a ++ b) = subs.here a := by
  induction subs with
  | nil => rfl
  | cons s later ih =>
    have hlater : ¬BreaksOff (names later) a := fun hb => h (hb.mono (List.subset_cons_self _ _))
    rw [here_cons, here_cons, ih hlater]
    simp only [prefix_append_iff h ha List.mem_cons_self]

lemma pass_append (h : ¬BreaksOff subs.names a) {k : Nat} (hk : k ≤ a.length) (b : List Char) :
    pass subs k (a ++ b) = pass subs k a ++ atOnce subs b := by
  induction a generalizing k with
  | nil =>
    obtain rfl : k = 0 := Nat.le_zero.1 hk
    simp [pass, atOnce]
  | cons c a ih =>
    have ha : ¬BreaksOff subs.names a := fun hb => h (hb.of_suffix (List.suffix_cons c a))
    have hsame : subs.here (c :: (a ++ b)) = subs.here (c :: a) :=
      here_append h (List.cons_ne_nil c a) b
    cases k with
    | succ k =>
      rw [List.cons_append, pass, pass]
      exact ih ha (Nat.le_of_succ_le_succ hk)
    | zero =>
      rw [List.cons_append, pass, pass, hsame]
      cases hs : subs.here (c :: a) with
      | none => simp only [ih ha (Nat.zero_le _), List.cons_append]
      | some s =>
        have hle : s.1.length - 1 ≤ a.length := by
          have := (prefix_of_here hs).length_le
          simp only [List.length_cons] at this
          omega
        simp only [ih ha hle, List.append_assoc]

/-- Texts are filled one by one, if the first does not end within a name. -/
theorem atOnce_append (h : ¬BreaksOff subs.names a) (b : List Char) :
    atOnce subs (a ++ b) = atOnce subs a ++ atOnce subs b :=
  pass_append h (Nat.zero_le _) b

@[simp] theorem atOnce_nil (cs : List Char) : atOnce [] cs = cs := by
  induction cs with
  | nil => rfl
  | cons c r ih =>
    rw [atOnce, pass, here_nil]
    simpa [atOnce] using ih

lemma pass_skip (subs : Substitutions) (n b : List Char) :
    pass subs n.length (n ++ b) = atOnce subs b := by
  induction n with
  | nil => rfl
  | cons c n ih => exact ih

lemma atOnce_of_here (hn : n ≠ []) (h : subs.here (n ++ b) = some (n, v)) :
    atOnce subs (n ++ b) = v ++ atOnce subs b := by
  cases n with
  | nil => contradiction
  | cons c n =>
    rw [List.cons_append] at h ⊢
    rw [atOnce, pass, h]
    simp only [List.length_cons, Nat.add_sub_cancel, pass_skip]

lemma here_append_of_subset {more : Substitutions} (h : names more ⊆ names subs) (cs : List Char) :
    here (subs ++ more) cs = here subs cs := by
  rw [here, List.find?_append, here]
  cases hs : subs.find? (·.1.isPrefixOf cs) with
  | some s => rfl
  | none =>
    have hmore : more.find? (·.1.isPrefixOf cs) = none := by
      rw [List.find?_eq_none] at hs ⊢
      intro t ht
      obtain ⟨s, hmem, hname⟩ := List.mem_map.1 (h (List.mem_map_of_mem ht))
      rw [← hname]
      exact hs s hmem
    rw [hmore]
    rfl

lemma atOnce_append_of_subset {more : Substitutions} (h : names more ⊆ names subs)
    (cs : List Char) : atOnce (subs ++ more) cs = atOnce subs cs := by
  have hpass : ∀ k, pass (subs ++ more) k cs = pass subs k cs := by
    induction cs with
    | nil => simp [pass]
    | cons c r ih =>
      intro k
      cases k with
      | succ k => rw [pass, pass, ih]
      | zero => rw [pass, pass, here_append_of_subset h]; simp only [ih]
  exact hpass 0

lemma pass_of_absent (h : ¬n <:+: cs) (v : List Char) (k : Nat) :
    pass ((n, v) :: subs) k cs = pass subs k cs := by
  induction cs generalizing k with
  | nil => simp [pass]
  | cons c r ih =>
    have hr : ¬n <:+: r := fun hi => h (List.infix_cons_iff.2 (.inr hi))
    have hp : ¬n <+: c :: r := fun hp => h hp.isInfix
    cases k with
    | succ k => rw [pass, pass, ih hr]
    | zero =>
      rw [pass, pass, here_cons, if_neg hp]
      cases subs.here (c :: r) with
      | none => simp only [ih hr]
      | some s => simp only [ih hr]

lemma atOnce_of_absent (h : ¬n <:+: cs) (v : List Char) :
    atOnce ((n, v) :: subs) cs = atOnce subs cs := pass_of_absent h v 0

lemma atOnce_around (hn : n ≠ []) (hbr : ¬BreaksOff (n :: subs.names) a) (ha : ¬n <:+: a)
    (b : List Char) :
    atOnce ((n, v) :: subs) (a ++ n ++ b) = atOnce subs a ++ (v ++ atOnce ((n, v) :: subs) b) := by
  have hhere : here ((n, v) :: subs) (n ++ b) = some (n, v) := by
    rw [here_cons, if_pos (List.prefix_append n b)]
  have hnames : ¬BreaksOff (names ((n, v) :: subs)) a := hbr
  rw [List.append_assoc, atOnce_append hnames, atOnce_of_absent ha, atOnce_of_here hn hhere]

/-! ### One name after the other -/

lemma replaceAfter_eq_pass (n v : List Char) (k : Nat) (cs : List Char) :
    replaceAfter n v k cs = pass [(n, v)] k cs := by
  fun_induction replaceAfter n v k cs with
  | case1 => simp [pass]
  | case2 k c r ih => rw [pass, ih]
  | case3 c r hp ih => rw [pass, here_cons, if_pos (List.isPrefixOf_iff_prefix.1 hp), ih]
  | case4 c r hp ih =>
    rw [pass, here_cons, if_neg (fun h => hp (List.isPrefixOf_iff_prefix.2 h)), here_nil, ih]

/-- A single name is put in at once. -/
theorem replaceText_eq_atOnce (hn : n ≠ []) (v cs : List Char) :
    replaceText n v cs = atOnce [(n, v)] cs := by
  rw [replaceText, if_neg hn, replaceAfter_eq_pass, atOnce]

lemma replaceText_of_absent (hn : n ≠ []) (h : ¬n <:+: cs) (v : List Char) :
    replaceText n v cs = cs := by
  rw [replaceText_eq_atOnce hn, atOnce_of_absent h, atOnce_nil]

lemma replaceText_around (hn : n ≠ []) (hbr : ¬BreaksOff [n] a) (ha : ¬n <:+: a)
    (v b : List Char) :
    replaceText n v (a ++ n ++ b) = a ++ (v ++ replaceText n v b) := by
  have hnames : ¬BreaksOff (n :: names []) a := hbr
  rw [replaceText_eq_atOnce hn, atOnce_around hn hnames ha, atOnce_nil, replaceText_eq_atOnce hn]

section Step
variable (hn : n ≠ [])
include hn

/-- Where no name is broken off before another, there is none after a value was put in. -/
theorem apart_replaceText {names : List (List Char)} (hcs : Apart (n :: names) cs)
    (hv : Apart names v) (hbr : ¬BreaksOff names v) : Apart names (replaceText n v cs) := by
  induction cs using infix_induction hn with
  | without cs h =>
    rw [replaceText_of_absent hn h]
    exact hcs.mono (List.subset_cons_self _ _)
  | around a b ha ih =>
    have hall : ¬BreaksOff (n :: names) a := hcs.not_breaksOff List.mem_cons_self
    have hself : ¬BreaksOff [n] a := fun h => hall (h.mono (by simp))
    have hlater : ¬BreaksOff names a := fun h => hall (h.mono (List.subset_cons_self _ _))
    rw [replaceText_around hn hself ha]
    have hleft : Apart names a :=
      hcs.of_append_left.of_append_left.mono (List.subset_cons_self _ _)
    exact hleft.append hlater (hv.append hbr (ih hcs.of_append_right))

/-- Putting in one value and then the others at once is putting in the filled value with the
others. -/
theorem atOnce_replaceText (hcs : Apart (n :: subs.names) cs) (hbr : ¬BreaksOff subs.names v) :
    atOnce subs (replaceText n v cs) = atOnce ((n, atOnce subs v) :: subs) cs := by
  induction cs using infix_induction hn with
  | without cs h => rw [replaceText_of_absent hn h, atOnce_of_absent h]
  | around a b ha ih =>
    have hall : ¬BreaksOff (n :: subs.names) a := hcs.not_breaksOff List.mem_cons_self
    have hself : ¬BreaksOff [n] a := fun h => hall (h.mono (by simp))
    have hlater : ¬BreaksOff subs.names a := fun h => hall (h.mono (List.subset_cons_self _ _))
    rw [replaceText_around hn hself ha, atOnce_append hlater, atOnce_append hbr,
      ih hcs.of_append_right, atOnce_around hn hall ha]

end Step

lemma mem_of_mem_replaceAfter {c : Char} {k : Nat} (h : c ∈ replaceAfter n v k cs) :
    c ∈ cs ∨ c ∈ v := by
  fun_induction replaceAfter n v k cs with
  | case1 => contradiction
  | case2 k d r ih => exact (ih h).imp_left (List.mem_cons_of_mem d)
  | case3 d r hp ih =>
    obtain h | h := List.mem_append.1 h
    · exact .inr h
    · exact (ih h).imp_left (List.mem_cons_of_mem d)
  | case4 d r hp ih =>
    obtain rfl | h := List.mem_cons.1 h
    · exact .inl List.mem_cons_self
    · exact (ih h).imp_left (List.mem_cons_of_mem d)

lemma mem_of_mem_replaceText {c : Char} (h : c ∈ replaceText n v cs) : c ∈ cs ∨ c ∈ v := by
  rw [replaceText] at h
  split at h
  · exact .inl h
  · exact mem_of_mem_replaceAfter h

lemma mem_of_mem_inTurn {c : Char} (h : c ∈ inTurn subs cs) : c ∈ cs ∨ ∃ s ∈ subs, c ∈ s.2 := by
  induction subs generalizing cs with
  | nil => exact .inl h
  | cons s later ih =>
    obtain h | ⟨t, ht, hc⟩ := ih h
    · exact (mem_of_mem_replaceText h).imp_right fun hc => ⟨s, List.mem_cons_self, hc⟩
    · exact .inr ⟨t, List.mem_cons_of_mem s ht, hc⟩

/-- Names that are put in one after the other are put in at once with settled values. -/
theorem inTurn_eq_atOnce (hne : [] ∉ subs.names) (hv : subs.Unmixed) (hcs : Apart subs.names cs) :
    inTurn subs cs = atOnce (settled subs) cs := by
  induction subs generalizing cs with
  | nil => simp [settled]
  | cons s later ih =>
    obtain ⟨n, v⟩ := s
    obtain ⟨hva, hvb, hlater⟩ := hv
    rw [names_cons, List.mem_cons, not_or] at hne
    have hn : n ≠ [] := Ne.symm hne.1
    have hbr : ¬BreaksOff (settled later).names v := by rwa [names_settled]
    have happ : Apart (n :: (settled later).names) cs := by rwa [names_settled]
    rw [inTurn_cons, ih hne.2 hlater (apart_replaceText hn hcs hva hvb), settled,
      ih hne.2 hlater hva, atOnce_replaceText hn happ hbr]

lemma atOnce_self (hn : n ≠ []) : atOnce ((n, v) :: subs) n = v := by
  have hhere : here ((n, v) :: subs) (n ++ []) = some (n, v) := by
    rw [here_cons, if_pos (List.prefix_append n [])]
  have h := atOnce_of_here hn hhere
  rwa [atOnce_empty, List.append_nil, List.append_nil] at h

/-- Where no name occurs in another one, exactly the values that no later name changes are put in at
once into all texts. -/
theorem unchanged_iff (hne : [] ∉ subs.names) (hv : subs.Unmixed)
    (hdistinct : subs.names.Pairwise fun m n => ¬m <:+: n)
    (hself : ∀ n ∈ subs.names, Apart subs.names n) :
    (∀ cs, Apart subs.names cs → inTurn subs cs = atOnce subs cs) ↔ subs.Unchanged := by
  constructor
  · intro h
    have hnames : ∀ n ∈ subs.names, inTurn subs n = atOnce subs n := fun n hn => h n (hself n hn)
    clear h hself hv
    induction subs with
    | nil => trivial
    | cons s later ih =>
      obtain ⟨n, v⟩ := s
      rw [names_cons, List.mem_cons, not_or] at hne
      obtain ⟨hfirst, hlater⟩ := List.pairwise_cons.1 hdistinct
      have hn : n ≠ [] := Ne.symm hne.1
      refine ⟨?_, ih hne.2 hlater fun m hm => ?_⟩
      · have h := hnames n List.mem_cons_self
        rwa [inTurn_cons, replaceText_eq_atOnce hn, atOnce_self hn, atOnce_self hn] at h
      · have h := hnames m (List.mem_cons_of_mem _ hm)
        rwa [inTurn_cons, replaceText_of_absent hn (hfirst m hm),
          atOnce_of_absent (hfirst m hm)] at h
  · intro hu cs hcs
    rw [inTurn_eq_atOnce hne hv hcs, settled_of_unchanged hu]

/-! ### Values without the mark of a name -/

end Substitutions

end Moderation.Text
