import Mathlib.Tactic.Lemma
import Moderation.Regex.Template

/-!
Templates that stand for themselves. A template is not taken as it is written exactly if it has a
dollar sign that refers to a group or stands before another one.
-/
namespace Moderation.Regex

/-- The name after a dollar sign of a template, as patterns of either kind read it. -/
def templateReference? (extended : Bool) : List Char → Option (List Char × List Char) :=
  if extended then extendedReference? else plainReference?

/-- Whether no dollar sign of a template refers to a group or stands before another one. -/
def isInert (extended : Bool) : List Char → Bool
  | [] => true
  | c :: r =>
    (c != '$' || (r.head? != some '$' && (templateReference? extended r).isNone)) &&
      isInert extended r

@[simp] lemma isInert_nil (extended : Bool) : isInert extended [] = true := rfl

lemma isInert_cons {extended : Bool} {c : Char} {r : List Char} :
    isInert extended (c :: r) = true ↔
      (c = '$' → r.head? ≠ some '$' ∧ templateReference? extended r = none) ∧
        isInert extended r = true := by
  by_cases hc : c = '$'
  · simp [isInert, hc]
  · simp [isInert, hc]

lemma isInert_of_no_dollar {extended : Bool} {cs : List Char} (h : '$' ∉ cs) :
    isInert extended cs = true := by
  induction cs with
  | nil => rfl
  | cons c r ih =>
    rw [List.mem_cons, not_or] at h
    exact isInert_cons.2 ⟨fun hc => absurd hc.symm h.1, ih h.2⟩

/-! ### The parts of a template -/

section Parts
variable {reference? : List Char → Option (List Char × List Char)} {c : Char} {r : List Char}

lemma templateParts_cons_of_ne (hc : c ≠ '$') (fuel : Nat) :
    templateParts reference? (fuel + 1) (c :: r) =
      .literal c :: templateParts reference? fuel r := by
  simp [templateParts, hc]

lemma templateParts_of_reference {name after : List Char} (hr : r.head? ≠ some '$')
    (h : reference? r = some (name, after)) (fuel : Nat) :
    templateParts reference? (fuel + 1) ('$' :: r) =
      .group name :: templateParts reference? fuel after := by
  have hne : ∀ s, r ≠ '$' :: s := fun s he => hr (by rw [he, List.head?_cons])
  simp [templateParts, h]

lemma templateParts_of_no_reference (hr : r.head? ≠ some '$') (h : reference? r = none)
    (fuel : Nat) : templateParts reference? (fuel + 1) ('$' :: r) =
      .literal '$' :: templateParts reference? fuel r := by
  have hne : ∀ s, r ≠ '$' :: s := fun s he => hr (by rw [he, List.head?_cons])
  simp [templateParts, h]

/-- Whether what follows a reference is no longer than what its name was read from. -/
def Shrinks (reference? : List Char → Option (List Char × List Char)) : Prop :=
  ∀ {cs name after}, reference? cs = some (name, after) → after.length ≤ cs.length

lemma length_of_cutAt {mark cs name after : List Char} (h : cutAt mark cs = some (name, after)) :
    after.length ≤ cs.length := by
  induction cs generalizing name after with
  | nil => simp [cutAt] at h
  | cons c r ih =>
    rw [cutAt] at h
    split at h
    · obtain ⟨-, rfl⟩ := Prod.mk.inj (Option.some.inj h)
      exact (List.drop_sublist _ _).length_le
    · obtain ⟨⟨a, b⟩, hr, hab⟩ := Option.map_eq_some_iff.1 h
      obtain ⟨-, rfl⟩ := Prod.mk.inj hab
      exact Nat.le_succ_of_le (ih hr)

lemma shrinks_plainReference : Shrinks plainReference? := by
  intro cs name after h
  rw [plainReference?.eq_def] at h
  split at h
  · exact Nat.le_succ_of_le (length_of_cutAt h)
  · dsimp only at h
    split at h
    · contradiction
    · obtain ⟨-, rfl⟩ := Prod.mk.inj (Option.some.inj h)
      exact (List.dropWhile_sublist _).length_le

lemma shrinks_readId (opening closing : List Char) : Shrinks (readId? opening closing) := by
  intro cs name after h
  rw [readId?] at h
  split at h
  · contradiction
  · dsimp only at h
    split at h
    · contradiction
    · obtain ⟨-, rfl⟩ := Prod.mk.inj (Option.some.inj h)
      exact ((List.drop_sublist _ _).trans ((List.dropWhile_sublist _).trans
        (List.drop_sublist _ _))).length_le

lemma shrinks_templateReference (extended : Bool) : Shrinks (templateReference? extended) := by
  cases extended with
  | false => exact shrinks_plainReference
  | true =>
    intro cs name after h
    obtain h | ⟨-, h⟩ := Option.or_eq_some_iff.1 h
    · exact shrinks_readId _ _ h
    · exact shrinks_readId _ _ h

end Parts

/-! ### What a template stands for -/

section Expand
variable {extended : Bool} {names : List (String × Nat)} {cs : List Char}

lemma flatMap_literal (names : List (String × Nat)) (m : Cursor) (cs : List Char) :
    (cs.map TemplatePart.literal).flatMap (·.expand names m) = cs := by
  induction cs with
  | nil => rfl
  | cons c r ih => rw [List.map_cons, List.flatMap_cons, ih]; rfl

lemma templateParts_of_isInert (h : isInert extended cs = true) :
    templateParts (templateReference? extended) cs.length cs = cs.map .literal := by
  induction cs with
  | nil => rfl
  | cons c r ih =>
    obtain ⟨hc, hr⟩ := isInert_cons.1 h
    rw [List.length_cons, List.map_cons, ← ih hr]
    by_cases hd : c = '$'
    · obtain ⟨hhead, href⟩ := hc hd
      rw [hd, templateParts_of_no_reference hhead href]
    · exact templateParts_cons_of_ne hd _

/-- A match of nothing: all its groups are empty. -/
def Cursor.blank : Cursor := .start []

@[simp] lemma Cursor.groupText_blank (i : Nat) : Cursor.blank.groupText i = [] := by
  by_cases hi : i = 0
  · simp [groupText, hi, blank, start, slice]
  · simp [groupText, hi, blank, start, group?]

/-- What parts of a template come to in a match of nothing has one character for each of them that is
no reference. -/
def blankLength (names : List (String × Nat)) (ps : List TemplatePart) : Nat :=
  (ps.flatMap (·.expand names .blank)).length

@[simp] lemma blankLength_nil (names : List (String × Nat)) : blankLength names [] = 0 := rfl

@[simp] lemma blankLength_literal (c : Char) (ps : List TemplatePart) :
    blankLength names (.literal c :: ps) = blankLength names ps + 1 := by
  rw [blankLength, List.flatMap_cons, List.length_append, Nat.add_comm]
  rfl

@[simp] lemma blankLength_group (name : List Char) (ps : List TemplatePart) :
    blankLength names (.group name :: ps) = blankLength names ps := by
  have hgroup : (TemplatePart.group name).expand names .blank = [] := by
    rw [TemplatePart.expand]
    cases (TemplatePart.group name).group? names <;> simp
  rw [blankLength, List.flatMap_cons, hgroup, List.nil_append, blankLength]

/-- In a match of nothing a template never comes to more than it is, and to as much only if it stands
for itself. -/
lemma blankLength_templateParts (names : List (String × Nat)) {fuel : Nat}
    (hlen : cs.length ≤ fuel) :
    let n := blankLength names (templateParts (templateReference? extended) fuel cs)
    n ≤ cs.length ∧ (n = cs.length → isInert extended cs = true) := by
  induction fuel generalizing cs with
  | zero =>
    obtain rfl : cs = [] := List.length_eq_zero_iff.1 (Nat.le_zero.1 hlen)
    exact ⟨Nat.le_refl _, fun _ => rfl⟩
  | succ fuel ih =>
    cases cs with
    | nil => exact ⟨Nat.le_refl _, fun _ => rfl⟩
    | cons c r =>
      have hr : r.length ≤ fuel := Nat.le_of_succ_le_succ hlen
      obtain ⟨hle, hinert⟩ := ih hr
      by_cases hc : c = '$'
      · subst hc
        by_cases hhead : r.head? = some '$'
        · -- two signs stand for one
          obtain ⟨s, rfl⟩ := List.head?_eq_some_iff.1 hhead
          obtain ⟨hle, -⟩ := ih (Nat.le_of_succ_le hr)
          simp only [templateParts, blankLength_literal, List.length_cons]
          exact ⟨by omega, fun h => by omega⟩
        · cases href : templateReference? extended r with
          | some found =>
            -- the sign itself is lost
            obtain ⟨name, after⟩ := found
            have hafter := shrinks_templateReference extended href
            obtain ⟨hle, -⟩ := ih (Nat.le_trans hafter hr)
            rw [templateParts_of_reference hhead href]
            simp only [blankLength_group, List.length_cons]
            exact ⟨by omega, fun h => by omega⟩
          | none =>
            rw [templateParts_of_no_reference hhead href]
            simp only [blankLength_literal, List.length_cons]
            exact ⟨by omega, fun h =>
              isInert_cons.2 ⟨fun _ => ⟨hhead, href⟩, hinert (by omega)⟩⟩
      · rw [templateParts_cons_of_ne hc]
        simp only [blankLength_literal, List.length_cons]
        exact ⟨by omega, fun h => isInert_cons.2 ⟨fun he => absurd he hc, hinert (by omega)⟩⟩

/-- A template stands for itself in all matches exactly if no dollar sign in it refers to a group or
stands before another one. -/
theorem expandTemplate_eq_self_iff :
    (∀ m, expandTemplate extended names cs m = cs) ↔ isInert extended cs = true := by
  constructor
  · intro h
    exact (blankLength_templateParts names (Nat.le_refl _)).2 (congrArg List.length (h .blank))
  · intro h m
    have hparts := templateParts_of_isInert h
    rw [templateReference?] at hparts
    rw [expandTemplate, partsOf, hparts, flatMap_literal]

lemma expandTemplate?_of_le (extended : Bool) (names : List (String × Nat)) (template : List Char)
    {m : Cursor} (h : m.first ≤ m.index) :
    expandTemplate? extended names template m = some (expandTemplate extended names template m) := by
  rw [expandTemplate?, if_neg fun hcrash => Nat.not_lt.2 h hcrash.1]

lemma eq_of_expandTemplate? {template out : List Char} {m : Cursor}
    (h : expandTemplate? extended names template m = some out) :
    out = expandTemplate extended names template m := by
  rw [expandTemplate?] at h
  split at h
  · contradiction
  · exact (Option.some.inj h).symm

end Expand

end Moderation.Regex
