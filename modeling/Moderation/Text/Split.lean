import Moderation.Unicode.Class

/-!
Cutting texts into parts and putting them together again: at separators, at blanks, and at the places
where another text occurs.
-/
namespace Moderation.Text
open Moderation.Unicode

/-- Put a character in front of the first part. -/
def extendFirst (c : Char) : List (List Char) → List (List Char)
  | [] => [[c]]
  | p :: ps => (c :: p) :: ps

@[simp] theorem extendFirst_cons (c : Char) (p : List Char) (ps : List (List Char)) :
    extendFirst c (p :: ps) = (c :: p) :: ps := rfl

@[simp] theorem extendFirst_ne_nil (c : Char) (ps : List (List Char)) : extendFirst c ps ≠ [] := by
  cases ps <;> simp [extendFirst]

/-- The parts between the characters that satisfy `p`; there is always at least one. -/
def splitWhere (p : Char → Bool) : List Char → List (List Char)
  | [] => [[]]
  | c :: r => if p c then [] :: splitWhere p r else extendFirst c (splitWhere p r)

@[simp] theorem splitWhere_nil (p : Char → Bool) : splitWhere p [] = [[]] := rfl

@[simp] theorem splitWhere_ne_nil (p : Char → Bool) (cs : List Char) : splitWhere p cs ≠ [] := by
  cases cs with
  | nil => simp
  | cons c r => simp only [splitWhere]; split <;> simp

/-- The parts between the occurrences of one character. -/
def splitOn (sep : Char) (cs : List Char) : List (List Char) := splitWhere (· == sep) cs

@[simp] theorem splitOn_ne_nil (sep : Char) (cs : List Char) : splitOn sep cs ≠ [] :=
  splitWhere_ne_nil _ cs

def join (sep : List Char) : List (List Char) → List Char
  | [] => []
  | [p] => p
  | p :: ps => p ++ sep ++ join sep ps

@[simp] theorem join_nil (sep : List Char) : join sep [] = [] := rfl
@[simp] theorem join_singleton (sep p : List Char) : join sep [p] = p := rfl
@[simp] theorem join_cons_cons (sep p q : List Char) (ps : List (List Char)) :
    join sep (p :: q :: ps) = p ++ sep ++ join sep (q :: ps) := rfl

theorem join_splitOn (sep : Char) (cs : List Char) : join [sep] (splitOn sep cs) = cs := by
  induction cs with
  | nil => rfl
  | cons c r ih =>
    unfold splitOn at ih ⊢
    cases h : splitWhere (· == sep) r with
    | nil => exact absurd h (splitWhere_ne_nil _ r)
    | cons p ps =>
      rw [h] at ih
      by_cases hc : c = sep
      · simp [splitWhere, h, hc, ih]
      · cases ps <;> simp_all [splitWhere]

/-- The parts between the occurrences of a text, found from left to right; `skip` characters still
belong to the occurrence before. -/
def splitAround (sep : List Char) : (skip : Nat) → List Char → List (List Char)
  | _, [] => [[]]
  | k + 1, _ :: r => splitAround sep k r
  | 0, c :: r =>
    if sep.isPrefixOf (c :: r) then [] :: splitAround sep (sep.length - 1) r
    else extendFirst c (splitAround sep 0 r)

/-- The parts between the occurrences of a text that is not empty. -/
def splitOnText (sep cs : List Char) : List (List Char) := splitAround sep 0 cs

/-- A text with each occurrence of `old` replaced, found from left to right; `skip` characters still
belong to the occurrence before. -/
def replaceAfter (old new : List Char) : (skip : Nat) → List Char → List Char
  | _, [] => []
  | k + 1, _ :: r => replaceAfter old new k r
  | 0, c :: r =>
    if old.isPrefixOf (c :: r) then new ++ replaceAfter old new (old.length - 1) r
    else c :: replaceAfter old new 0 r

/-- A text with each occurrence of `old` replaced by `new`; the empty text occurs nowhere. -/
def replaceText (old new cs : List Char) : List Char :=
  if old = [] then cs else replaceAfter old new 0 cs

def trimStart (cs : List Char) : List Char := cs.dropWhile isBlank

def trimEnd (cs : List Char) : List Char := (trimStart cs.reverse).reverse

def trim (cs : List Char) : List Char := trimEnd (trimStart cs)

@[simp] theorem trim_nil : trim [] = [] := rfl

/-- The words of a text: the parts between blanks that are not empty. -/
def words (cs : List Char) : List (List Char) :=
  (splitWhere isBlank cs).filter (!·.isEmpty)

/-- The parts before and after the first occurrence of a character. -/
def cut (sep : Char) : List Char → Option (List Char × List Char)
  | [] => none
  | c :: r => if c = sep then some ([], r) else (cut sep r).map fun (a, b) => (c :: a, b)

def after? (start cs : List Char) : Option (List Char) :=
  if start.isPrefixOf cs then some (cs.drop start.length) else none

theorem after?_eq_some_iff {start cs rest : List Char} :
    after? start cs = some rest ↔ cs = start ++ rest := by
  simp only [after?]
  constructor
  · intro h
    split at h
    · rename_i hp
      obtain ⟨t, rfl⟩ := List.isPrefixOf_iff_prefix.1 hp
      simpa using h
    · simp at h
  · rintro rfl
    simp

/-- A text is cut where the character occurs first. -/
theorem cut_eq_some_iff {sep : Char} {cs a b : List Char} :
    cut sep cs = some (a, b) ↔ cs = a ++ sep :: b ∧ sep ∉ a := by
  induction cs generalizing a with
  | nil => simp [cut]
  | cons c r ih =>
    by_cases hc : c = sep
    · subst hc
      simp only [cut, if_true, Option.some.injEq, Prod.mk.injEq]
      constructor
      · rintro ⟨rfl, rfl⟩
        simp
      · rintro ⟨h, hn⟩
        cases a with
        | nil => simpa using h
        | cons x xs => simp_all
    · simp only [cut, if_neg hc, Option.map_eq_some_iff, Prod.mk.injEq, Prod.exists]
      constructor
      · rintro ⟨x, y, h, rfl, rfl⟩
        obtain ⟨rfl, hn⟩ := ih.1 h
        exact ⟨rfl, by simpa [Ne.symm hc] using hn⟩
      · rintro ⟨h, hn⟩
        cases a with
        | nil => simp_all
        | cons x xs =>
          obtain ⟨rfl, rfl⟩ : c = x ∧ r = xs ++ sep :: b := by simpa using h
          exact ⟨xs, b, ih.2 ⟨rfl, fun hm => hn (by simp [hm])⟩, rfl, rfl⟩

/-- Equality of ASCII letters up to case, and of other characters as they are. -/
def equalIgnoringAsciiCase (a b : List Char) : Bool :=
  a.map Char.toLower == b.map Char.toLower

end Moderation.Text
