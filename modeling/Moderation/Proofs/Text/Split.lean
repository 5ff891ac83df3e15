import Mathlib.Tactic.Lemma
import Moderation.Text.Basic

/-!
The parts of a text. They have characters of the text only, a part has no separator in it, and put
together again they make the text. Parts without a separator are found again in the text that they make,
and a text without one is replaced part by part.
-/
namespace Moderation.Text
open Unicode

variable {P : Char → Prop} {cs : List Char}

lemma forall_mem_extendFirst {c : Char} {ps : List (List Char)} (hc : P c)
    (h : ∀ p ∈ ps, ∀ x ∈ p, P x) : ∀ p ∈ extendFirst c ps, ∀ x ∈ p, P x := by
  cases ps with
  | nil => simpa [extendFirst] using hc
  | cons p ps =>
    obtain ⟨hp, hps⟩ := List.forall_mem_cons.1 h
    exact List.forall_mem_cons.2 ⟨List.forall_mem_cons.2 ⟨hc, hp⟩, hps⟩

/-- What holds of all characters of a text holds in its parts, and none of these has a separator. -/
theorem forall_mem_splitWhere {f : Char → Bool} (h : ∀ x ∈ cs, P x) :
    ∀ p ∈ splitWhere f cs, ∀ x ∈ p, P x ∧ f x = false := by
  induction cs with
  | nil => simp
  | cons c r ih =>
    obtain ⟨hc, hr⟩ := List.forall_mem_cons.1 h
    simp only [splitWhere]
    split
    · exact List.forall_mem_cons.2 ⟨by simp, ih hr⟩
    · rename_i hf
      exact forall_mem_extendFirst ⟨hc, by simpa using hf⟩ (ih hr)

lemma not_mem_of_mem_splitOn {sep : Char} {p : List Char} (hp : p ∈ splitOn sep cs) : sep ∉ p := by
  intro hm
  have hall : ∀ x ∈ cs, True := fun _ _ => trivial
  simpa using (forall_mem_splitWhere hall p hp sep hm).2

/-- What holds of all characters of a text holds in its parts around another text. -/
theorem forall_mem_splitAround {sep : List Char} {k : Nat} (h : ∀ x ∈ cs, P x) :
    ∀ p ∈ splitAround sep k cs, ∀ x ∈ p, P x := by
  fun_induction splitAround sep k cs with
  | case1 => simp
  | case2 k c r ih => exact ih (List.forall_mem_cons.1 h).2
  | case3 c r hp ih => exact List.forall_mem_cons.2 ⟨by simp, ih (List.forall_mem_cons.1 h).2⟩
  | case4 c r hp ih =>
    obtain ⟨hc, hr⟩ := List.forall_mem_cons.1 h
    exact forall_mem_extendFirst hc (ih hr)

@[simp] lemma splitAround_ne_nil (sep : List Char) (k : Nat) (cs : List Char) :
    splitAround sep k cs ≠ [] := by
  fun_induction splitAround sep k cs <;> simp_all

lemma head_splitAround_prefix {sep p : List Char} {ps : List (List Char)}
    (h : splitAround sep 0 cs = p :: ps) : p <+: cs := by
  induction cs generalizing p ps with
  | nil =>
    obtain ⟨rfl, -⟩ := List.cons.inj h
    exact List.prefix_rfl
  | cons c r ih =>
    rw [splitAround] at h
    split at h
    · obtain ⟨rfl, -⟩ := List.cons.inj h
      exact List.nil_prefix
    · cases hr : splitAround sep 0 r with
      | nil => exact absurd hr (splitAround_ne_nil _ _ _)
      | cons q qs =>
        rw [hr] at h
        obtain ⟨rfl, -⟩ := List.cons.inj h
        exact List.cons_prefix_cons.2 ⟨rfl, ih hr⟩

/-- No part around another text has that text in it. -/
theorem not_infix_of_mem_splitAround {sep p : List Char} (hsep : sep ≠ []) {k : Nat}
    (h : p ∈ splitAround sep k cs) : ¬sep <:+: p := by
  fun_induction splitAround sep k cs generalizing p with
  | case1 =>
    rw [List.mem_singleton.1 h, List.infix_nil]
    exact hsep
  | case2 k c r ih => exact ih h
  | case3 c r hp ih =>
    obtain rfl | h := List.mem_cons.1 h
    · rw [List.infix_nil]
      exact hsep
    · exact ih h
  | case4 c r hp ih =>
    cases hr : splitAround sep 0 r with
    | nil => exact absurd hr (splitAround_ne_nil _ _ _)
    | cons q qs =>
      rw [hr] at h ih
      obtain rfl | h := List.mem_cons.1 h
      · -- the part would begin with the text, or the part after its first character has it
        intro hi
        obtain hi | hi := List.infix_cons_iff.1 hi
        · have hq : c :: q <+: c :: r := List.cons_prefix_cons.2 ⟨rfl, head_splitAround_prefix hr⟩
          exact hp (List.isPrefixOf_iff_prefix.2 (hi.trans hq))
        · exact ih List.mem_cons_self hi
      · exact ih (List.mem_cons_of_mem q h)

lemma join_cons_of_ne_nil (sep p : List Char) {ps : List (List Char)} (h : ps ≠ []) :
    join sep (p :: ps) = p ++ sep ++ join sep ps := by
  cases ps with
  | nil => contradiction
  | cons q qs => rfl

lemma join_extendFirst (sep : List Char) (c : Char) (ps : List (List Char)) :
    join sep (extendFirst c ps) = c :: join sep ps := by
  cases ps with
  | nil => rfl
  | cons p ps => cases ps <;> simp

/-- Joining undoes splitting around a text; what is skipped is lost. -/
theorem join_splitAround {sep : List Char} (hsep : sep ≠ []) (k : Nat) (cs : List Char) :
    join sep (splitAround sep k cs) = cs.drop k := by
  fun_induction splitAround sep k cs with
  | case1 => simp
  | case2 k c r ih => simpa using ih
  | case3 c r hp ih =>
    obtain ⟨t, ht⟩ := List.isPrefixOf_iff_prefix.1 hp
    obtain ⟨s, sep, rfl⟩ := List.exists_cons_of_ne_nil hsep
    obtain ⟨rfl, rfl⟩ : s = c ∧ sep ++ t = r := List.cons.inj ht
    rw [join_cons_of_ne_nil _ _ (splitAround_ne_nil _ _ _), ih]
    simp
  | case4 c r hp ih =>
    rw [join_extendFirst, ih]
    simp

lemma splitAround_singleton (sep : Char) (cs : List Char) : splitAround [sep] 0 cs = splitOn sep cs := by
  unfold splitOn
  induction cs with
  | nil => rfl
  | cons c r ih =>
    by_cases hc : c = sep
    · simp [splitAround, splitWhere, hc, ih]
    · simp [splitAround, splitWhere, hc, Ne.symm hc, ih]

lemma splitOn_of_not_mem {sep : Char} (h : sep ∉ cs) : splitOn sep cs = [cs] := by
  unfold splitOn
  induction cs with
  | nil => rfl
  | cons c r ih =>
    obtain ⟨hc, hr⟩ := not_or.1 (mt List.mem_cons.2 h)
    simp [splitWhere, Ne.symm hc, ih hr]

lemma splitOn_append_cons {sep : Char} (h : sep ∉ cs) (r : List Char) :
    splitOn sep (cs ++ sep :: r) = cs :: splitOn sep r := by
  unfold splitOn
  induction cs with
  | nil => simp [splitWhere]
  | cons c cs ih =>
    obtain ⟨hc, hcs⟩ := not_or.1 (mt List.mem_cons.2 h)
    simp [splitWhere, Ne.symm hc, ih hcs]

/-- Splitting undoes joining. -/
theorem splitOn_join {sep : Char} {ps : List (List Char)} (hne : ps ≠ [])
    (h : ∀ p ∈ ps, sep ∉ p) : splitOn sep (join [sep] ps) = ps := by
  induction ps with
  | nil => contradiction
  | cons p ps ih =>
    obtain ⟨hp, hps⟩ := List.forall_mem_cons.1 h
    cases ps with
    | nil => exact splitOn_of_not_mem hp
    | cons q ps =>
      rw [join_cons_cons, List.append_assoc, List.singleton_append, splitOn_append_cons hp,
        ih (List.cons_ne_nil q ps) hps]

/-- Parts that are each ended by a separator are found again, with nothing after the last one. -/
theorem splitOn_flatMap_concat {sep : Char} {ps : List (List Char)} (h : ∀ p ∈ ps, sep ∉ p) :
    splitOn sep (ps.flatMap (· ++ [sep])) = ps ++ [[]] := by
  induction ps with
  | nil => rfl
  | cons p ps ih =>
    obtain ⟨hp, hps⟩ := List.forall_mem_cons.1 h
    rw [List.flatMap_cons, List.append_assoc, List.singleton_append, splitOn_append_cons hp, ih hps, List.cons_append]

lemma join_inj {sep : Char} {ps qs : List (List Char)} (hp : ps ≠ []) (hq : qs ≠ [])
    (hps : ∀ p ∈ ps, sep ∉ p) (hqs : ∀ q ∈ qs, sep ∉ q) :
    join [sep] ps = join [sep] qs ↔ ps = qs := by
  refine ⟨fun h => ?_, congrArg _⟩
  rw [← splitOn_join hp hps, ← splitOn_join hq hqs, h]

/-! ### Replacing part by part -/

section Replace
variable {sep : Char} {old new : List Char}

@[simp] lemma replaceText_nil (old new : List Char) : replaceText old new [] = [] := by
  simp [replaceText, replaceAfter]

lemma prefix_append_cons_iff (hsep : sep ∉ old) (cs r : List Char) :
    old <+: cs ++ sep :: r ↔ old <+: cs := by
  refine ⟨fun h => ?_, fun h => h.trans (List.prefix_append _ _)⟩
  obtain h' | ⟨t, rfl⟩ := List.prefix_or_prefix_of_prefix h (List.prefix_append cs (sep :: r))
  · exact h'
  · cases t with
    | nil => simp
    | cons d t =>
      obtain ⟨rfl, -⟩ := List.cons_prefix_cons.1 ((List.prefix_append_right_inj cs).1 h)
      exact absurd (List.mem_append_right cs List.mem_cons_self) hsep

lemma replaceAfter_append_cons (hold : old ≠ []) (hsep : sep ∉ old) (r : List Char) {k : Nat}
    (hk : k ≤ cs.length) :
    replaceAfter old new k (cs ++ sep :: r) =
      replaceAfter old new k cs ++ sep :: replaceAfter old new 0 r := by
  induction cs generalizing k with
  | nil =>
    obtain rfl : k = 0 := Nat.le_zero.1 hk
    have hno : old.isPrefixOf (sep :: r) = false := by
      rw [Bool.eq_false_iff, ne_eq, List.isPrefixOf_iff_prefix]
      exact fun h => hold (List.prefix_nil.1 ((prefix_append_cons_iff hsep [] r).1 h))
    simp [replaceAfter, hno]
  | cons c cs ih =>
    cases k with
    | succ k =>
      rw [List.cons_append, replaceAfter, replaceAfter]
      exact ih (Nat.le_of_succ_le_succ hk)
    | zero =>
      have hsame : old.isPrefixOf (c :: (cs ++ sep :: r)) = old.isPrefixOf (c :: cs) := by
        rw [Bool.eq_iff_iff, List.isPrefixOf_iff_prefix, List.isPrefixOf_iff_prefix]
        exact prefix_append_cons_iff hsep (c :: cs) r
      rw [List.cons_append, replaceAfter, replaceAfter, hsame]
      split
      · rename_i hp
        have hlen := (List.isPrefixOf_iff_prefix.1 hp).length_le
        rw [ih (by simp only [List.length_cons] at hlen; omega), List.append_assoc]
      · rw [ih (Nat.zero_le _), List.cons_append]

/-- What is replaced in a text without reaching over a separator is replaced in each part. -/
theorem replaceText_join (hsep : sep ∉ old) (ps : List (List Char)) :
    replaceText old new (join [sep] ps) = join [sep] (ps.map (replaceText old new)) := by
  by_cases hold : old = []
  · have hid : replaceText old new = id := funext fun cs => if_pos hold
    rw [hid, List.map_id, id]
  · have happ (p r : List Char) : replaceText old new (p ++ sep :: r) =
        replaceText old new p ++ sep :: replaceText old new r := by
      simp only [replaceText, if_neg hold, replaceAfter_append_cons hold hsep r (Nat.zero_le _)]
    induction ps with
    | nil => simp
    | cons p ps ih =>
      cases ps with
      | nil => rfl
      | cons q ps =>
        rw [join_cons_cons, List.append_assoc, List.singleton_append, happ, ih]
        simp

end Replace

/-! ### Parts of strings -/

lemma forall_mem_parts {s : String} {c : Char} (h : ∀ x ∈ s.toList, P x) :
    ∀ p ∈ parts c s, ∀ x ∈ p.toList, P x := by
  intro p hp x hx
  obtain ⟨q, hq, rfl⟩ := List.mem_map.1 hp
  exact (forall_mem_splitWhere h q hq x (by simpa using hx)).1

lemma forall_mem_partsAround {s t : String} (h : ∀ x ∈ s.toList, P x) :
    ∀ p ∈ partsAround t s, ∀ x ∈ p.toList, P x := by
  intro p hp x hx
  obtain ⟨q, hq, rfl⟩ := List.mem_map.1 hp
  exact forall_mem_splitAround h q hq x (by simpa using hx)

lemma join_map_toList (separator : String) (ps : List String) :
    join separator.toList (ps.map String.toList) = (separator.intercalate ps).toList := by
  induction ps with
  | nil => rfl
  | cons p ps ih => cases ps <;> simp_all

lemma partsAround_ne_nil (separator text : String) : partsAround separator text ≠ [] := by
  simp [partsAround, splitOnText]

/-- Joining undoes splitting. -/
theorem intercalate_partsAround {separator : String} (h : separator ≠ "") (text : String) :
    separator.intercalate (partsAround separator text) = text := by
  have hsep : separator.toList ≠ [] := by simpa using h
  apply String.toList_injective
  have hid : String.toList ∘ String.ofList = id := funext fun cs => String.toList_ofList
  rw [← join_map_toList, partsAround, splitOnText, List.map_map, hid, List.map_id, join_splitAround hsep,
    List.drop_zero]

lemma not_infix_of_mem_partsAround {separator text p : String} (h : separator ≠ "")
    (hp : p ∈ partsAround separator text) : ¬separator.toList <:+: p.toList := by
  obtain ⟨q, hq, rfl⟩ := List.mem_map.1 hp
  rw [String.toList_ofList]
  exact not_infix_of_mem_splitAround (by simpa using h) hq

lemma parts_intercalate {separator : String} {sep : Char} (hsep : separator.toList = [sep]) {ps : List String}
    (hne : ps ≠ []) (h : ∀ p ∈ ps, sep ∉ p.toList) : parts sep (separator.intercalate ps) = ps := by
  have hsplit : splitOn sep (separator.intercalate ps).toList = ps.map String.toList := by
    rw [← join_map_toList, hsep]
    exact splitOn_join (by simpa using hne) (by simpa using h)
  have hid : String.ofList ∘ String.toList = id := funext fun s => String.ofList_toList
  rw [parts, hsplit, List.map_map, hid, List.map_id]

lemma mem_intercalate {separator : String} {c : Char} {l : List String} (h : c ∈ (separator.intercalate l).toList) :
    c ∈ separator.toList ∨ ∃ s ∈ l, c ∈ s.toList := by
  induction l with
  | nil => simp at h
  | cons s l ih =>
    cases l with
    | nil => exact .inr ⟨s, List.mem_cons_self, by simpa using h⟩
    | cons t l =>
      rw [String.intercalate_cons_cons] at h
      simp only [String.toList_append, List.mem_append] at h
      obtain (h | h) | h := h
      · exact .inr ⟨s, List.mem_cons_self, h⟩
      · exact .inl h
      · obtain h | ⟨u, hu, hc⟩ := ih h
        · exact .inl h
        · exact .inr ⟨u, List.mem_cons_of_mem _ hu, hc⟩

lemma mem_of_mem_trim {c : Char} {cs : List Char} (h : c ∈ trim cs) : c ∈ cs := by
  have hsub {ds : List Char} : trimStart ds ⊆ ds := (List.dropWhile_sublist _).subset
  have hend : c ∈ trimStart cs := by
    have := hsub (List.mem_reverse.1 h)
    exact List.mem_reverse.1 this
  exact hsub hend

lemma isBlank_of_trim_eq {c : Char} {ds : List Char} (h : trim cs = ds ++ [c]) :
    isBlank c = false := by
  have hstart : trimStart (trimStart cs).reverse = c :: ds.reverse := by
    simpa [trim, trimEnd] using congrArg List.reverse h
  have hhead := List.head?_dropWhile_not isBlank (trimStart cs).reverse
  rw [trimStart] at hstart
  rw [hstart] at hhead
  exact hhead

lemma trim_eq_self (hstart : ∀ c ∈ cs.head?, isBlank c = false)
    (hend : ∀ c ∈ cs.getLast?, isBlank c = false) : trim cs = cs := by
  have hkeep {ds : List Char} (h : ∀ c ∈ ds.head?, isBlank c = false) : trimStart ds = ds := by
    cases ds with
    | nil => rfl
    | cons d r => exact List.dropWhile_cons_of_neg (by simp [h d rfl])
  rw [trim, trimEnd, hkeep hstart, hkeep (by simpa using hend), List.reverse_reverse]

end Moderation.Text
