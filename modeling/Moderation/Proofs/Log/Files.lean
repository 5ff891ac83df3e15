import Mathlib.Tactic.Lemma
import Moderation.Disk

/-!
What becomes of the files on a disk when text is added to one of them. Folders may be made on the way
to it, and no other file changes.
-/
namespace Moderation.Disk

/-- The text of the file at a path, if there is one. -/
def textAt? (d : Disk) (path : List String) : Option String :=
  match d.find? path with
  | some (.file text) => some text
  | _ => none

@[simp] theorem textAt?_empty (here path : List String) :
    ({ here } : Disk).textAt? path = none := by
  by_cases h : path <+: here <;> simp [textAt?, find?, h]

section Text
variable {d : Disk} {path other : List String} {text : String}

theorem textAt?_eq_some_iff : d.textAt? path = some text ↔ d.find? path = some (.file text) := by
  simp only [textAt?]
  split <;> simp_all

lemma textAt?_put_of_ne (h : other ≠ path) (e : DiskEntry) :
    (d.put path e).textAt? other = d.textAt? other := by
  simp only [textAt?, find?_put_of_ne h]

lemma textAt?_put_file (h : ¬ path <+: d.here) (text : String) :
    (d.put path (.file text)).textAt? path = some text :=
  textAt?_eq_some_iff.2 (find?_put h _)

/-- The working folder and those around it are always there. -/
lemma not_prefix_of_find? {found : Option DiskEntry} (h : d.find? path = found)
    (hf : found ≠ some .folder) : ¬ path <+: d.here := by
  intro hpre
  rw [find?, if_pos (List.isPrefixOf_iff_prefix.2 hpre)] at h
  exact hf h.symm

/-- A file that takes the place of no folder, with what stood there before its text. -/
lemma textAt?_put_text {found : Option DiskEntry} (h : d.find? path = found)
    (hf : found ≠ some .folder) (text : String) (other : List String) :
    (d.put path (.file ((d.textAt? path).getD "" ++ text))).textAt? other =
      if path = other then some ((d.textAt? other).getD "" ++ text) else d.textAt? other := by
  by_cases ho : path = other
  · subst ho
    simp only [textAt?_put_file (not_prefix_of_find? h hf), if_true]
  · simp only [textAt?_put_of_ne (Ne.symm ho), if_neg ho]

lemma textAt?_put_folder (h : d.find? path = none) (other : List String) :
    (d.put path .folder).textAt? other = d.textAt? other := by
  by_cases ho : other = path
  · subst ho
    have hput := find?_put (not_prefix_of_find? h (by simp)) .folder
    simp [textAt?, hput, h]
  · exact textAt?_put_of_ne ho .folder

end Text

/-! ### Folders on the way -/

lemma here_makeFolders (d : Disk) (around names : List String) :
    (d.makeFolders around names).1.here = d.here := by
  fun_induction makeFolders d around names with
  | case1 | case2 | case4 => rfl
  | case3 _ _ _ _ _ _ _ ih => exact ih
  | case5 _ _ _ _ _ _ _ ih => exact ih

/-- Making folders does not lead to another working folder. -/
theorem here_makeWay (d : Disk) (names : List String) : (d.makeWay names).1.here = d.here := by
  rw [makeWay]
  split
  · rfl
  · exact here_makeFolders ..

lemma textAt?_makeFolders (d : Disk) (around names path : List String) :
    (d.makeFolders around names).1.textAt? path = d.textAt? path := by
  fun_induction makeFolders d around names with
  | case1 | case2 | case4 => rfl
  | case3 _ _ _ _ _ _ _ ih => exact ih
  | case5 _ _ _ _ _ _ hnone ih => exact ih.trans (textAt?_put_folder hnone path)

/-- Making folders changes no file. -/
theorem textAt?_makeWay (d : Disk) (names path : List String) :
    (d.makeWay names).1.textAt? path = d.textAt? path := by
  rw [makeWay]
  split
  · rfl
  · exact textAt?_makeFolders ..

/-! ### Text added to a file -/

/-- Adding text does not lead to another working folder. -/
@[simp] theorem here_append (d : Disk) (name text : String) :
    (d.append name text).1.here = d.here := by
  rw [append]
  have hhere := d.here_makeWay (writtenNames name).dropLast
  generalize d.makeWay (writtenNames name).dropLast = made at hhere
  obtain ⟨e, done⟩ := made
  dsimp only
  split
  · exact hhere
  · split <;> exact hhere

/-- Text that cannot be added changes no file, and text that can be added comes to the end of its own
file and changes no other. -/
theorem textAt?_append (d : Disk) (name text : String) (path : List String) :
    (d.append name text).1.textAt? path =
      if (d.append name text).2 = true ∧ namesOf d.here name = path then
        some ((d.textAt? path).getD "" ++ text)
      else d.textAt? path := by
  rw [append]
  have hway := textAt?_makeWay d (writtenNames name).dropLast
  generalize d.makeWay (writtenNames name).dropLast = made at hway
  obtain ⟨e, done⟩ := made
  simp only [← hway]
  generalize namesOf d.here name = names
  split
  · simp
  · split
    · simp
    · rename_i before hfind
      have htext : e.textAt? names = some before := textAt?_eq_some_iff.2 hfind
      simpa [htext] using textAt?_put_text hfind (by simp) text path
    · rename_i hfind
      have htext : e.textAt? names = none := by simp [textAt?, hfind]
      simpa [htext] using textAt?_put_text hfind (by simp) text path

end Moderation.Disk
