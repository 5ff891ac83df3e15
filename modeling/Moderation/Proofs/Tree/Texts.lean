import Mathlib.Tactic.Lemma
import Moderation.Tree.Basic

/-!
The texts of a tree: what the tree becomes when each of them is changed in its place, and trees whose
objects have their entries in another order.
-/
namespace Moderation.Tree

mutual

/-- A tree with each text changed in its place. Keys and everything else stay as they are. -/
def mapTexts (f : String → String) : Tree → Tree
  | .atom a => .atom a
  | .text s => .text (f s)
  | .list items => .list (mapItems f items)
  | .object entries => .object (mapEntries f entries)

/-- The items of a list with each text changed. -/
def mapItems (f : String → String) : List Tree → List Tree
  | [] => []
  | t :: ts => t.mapTexts f :: mapItems f ts

/-- The entries of an object with each text changed. -/
def mapEntries (f : String → String) : List (String × Tree) → List (String × Tree)
  | [] => []
  | (k, t) :: es => (k, t.mapTexts f) :: mapEntries f es

end

@[simp] theorem mapTexts_atom (f : String → String) (a : Atom) : (atom a).mapTexts f = atom a := by
  rw [mapTexts]

@[simp] theorem mapTexts_text (f : String → String) (s : String) :
    (text s).mapTexts f = text (f s) := by
  rw [mapTexts]

@[simp] theorem mapTexts_list (f : String → String) (items : List Tree) :
    (list items).mapTexts f = list (items.map (mapTexts f)) := by
  have h (items : List Tree) : mapItems f items = items.map (mapTexts f) := by
    induction items with
    | nil => rw [mapItems, List.map_nil]
    | cons t ts ih => rw [mapItems, ih, List.map_cons]
  rw [mapTexts, h]

@[simp] theorem mapTexts_object (f : String → String) (entries : List (String × Tree)) :
    (object entries).mapTexts f = object (entries.map fun e => (e.1, e.2.mapTexts f)) := by
  have h (entries : List (String × Tree)) :
      mapEntries f entries = entries.map fun e => (e.1, e.2.mapTexts f) := by
    induction entries with
    | nil => rw [mapEntries, List.map_nil]
    | cons e es ih => rw [mapEntries, ih, List.map_cons]
  rw [mapTexts, h]

mutual

theorem mapTexts_id (t : Tree) : t.mapTexts id = t := by
  cases t with
  | atom a => rw [mapTexts]
  | text s => rw [mapTexts, id]
  | list items => rw [mapTexts, mapItems_id]
  | object entries => rw [mapTexts, mapEntries_id]

lemma mapItems_id (items : List Tree) : mapItems id items = items := by
  cases items with
  | nil => rw [mapItems]
  | cons t ts => rw [mapItems, mapTexts_id, mapItems_id]

lemma mapEntries_id (entries : List (String × Tree)) : mapEntries id entries = entries := by
  cases entries with
  | nil => rw [mapEntries]
  | cons e es =>
    obtain ⟨k, t⟩ := e
    rw [mapEntries, mapTexts_id, mapEntries_id]

end

@[simp] theorem texts_list (items : List Tree) : (list items).texts = items.flatMap texts := by
  have h (items : List Tree) : textsOfItems items = items.flatMap texts := by
    induction items with
    | nil => rw [textsOfItems, List.flatMap_nil]
    | cons t ts ih => rw [textsOfItems, ih, List.flatMap_cons]
  rw [texts, h]

@[simp] theorem texts_object (entries : List (String × Tree)) :
    (object entries).texts = entries.flatMap fun e => e.2.texts := by
  have h (entries : List (String × Tree)) :
      textsOfEntries entries = entries.flatMap fun e => e.2.texts := by
    induction entries with
    | nil => rw [textsOfEntries, List.flatMap_nil]
    | cons e es ih => rw [textsOfEntries, ih, List.flatMap_cons]
  rw [texts, h]

/-- Whether two trees differ in nothing but the order of the entries of their objects, at any depth. -/
inductive Reordered : Tree → Tree → Prop
  | refl (t : Tree) : Reordered t t
  | entries {es fs : List (String × Tree)} (h : es.Perm fs) : Reordered (.object es) (.object fs)
  | item {t u : Tree} (before after : List Tree) (h : Reordered t u) :
    Reordered (.list (before ++ t :: after)) (.list (before ++ u :: after))
  | entry {t u : Tree} (before after : List (String × Tree)) (key : String) (h : Reordered t u) :
    Reordered (.object (before ++ (key, t) :: after)) (.object (before ++ (key, u) :: after))
  | trans {t u v : Tree} (h : Reordered t u) (h' : Reordered u v) : Reordered t v

namespace Reordered
variable {t u : Tree}

/-- The order of entries makes no difference to which texts there are. -/
theorem texts_perm (h : t.Reordered u) : t.texts.Perm u.texts := by
  induction h with
  | refl t => exact .refl _
  | entries h =>
    rw [texts_object, texts_object]
    exact h.flatMap_right _
  | item before after h ih =>
    simp only [texts_list, List.flatMap_append, List.flatMap_cons]
    exact (ih.append_right _).append_left _
  | entry before after key h ih =>
    simp only [texts_object, List.flatMap_append, List.flatMap_cons]
    exact (ih.append_right _).append_left _
  | trans _ _ ih ih' => exact ih.trans ih'

/-- Texts are changed in their places, whatever the order of the entries is. -/
theorem mapTexts (h : t.Reordered u) (f : String → String) :
    (t.mapTexts f).Reordered (u.mapTexts f) := by
  induction h with
  | refl t => exact .refl _
  | entries h =>
    rw [mapTexts_object, mapTexts_object]
    exact .entries (h.map _)
  | item before after h ih =>
    simp only [mapTexts_list, List.map_append, List.map_cons]
    exact .item _ _ ih
  | entry before after key h ih =>
    simp only [mapTexts_object, List.map_append, List.map_cons]
    exact .entry _ _ key ih
  | trans _ _ ih ih' => exact ih.trans ih'

end Reordered

end Moderation.Tree
