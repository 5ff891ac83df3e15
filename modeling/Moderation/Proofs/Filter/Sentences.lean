import Moderation.Filter.Grammar
import Moderation.Proofs.Text.Words
import Moderation.Proofs.Unicode.Upper

/-!
Capitals at the start of sentences, word by word. A sentence ends at the blank after a mark, so that the parts
of the sentences between blanks are those of the text, and the word that gets a capital is the one right at the
start of its sentence. A word with further blanks before it stays as it is, although it starts the sentence.
-/
namespace Moderation.Filter
open Unicode Text

variable {c : Char} {cs s p w : List Char} {ps : List (List Char)} {i : Nat}

/-! ### Words and capitals -/

/-- A mark that ends sentences. -/
def isMark (c : Char) : Bool := c == '!' || c == '?' || c == '.'

def endsSentence (word : List Char) : Bool := word.getLast?.any isMark

/-- Whether the word at a place among the words of a text is the first one of a sentence. -/
def startsSentence (ws : List (List Char)) : Nat → Bool
  | 0 => true
  | i + 1 => ws[i]?.any endsSentence

def withCapital : List Char → List Char
  | [] => []
  | c :: r => upper c ++ r

/-- A word with a capital, unless it is a web address. -/
def capitalWord (word : List Char) : List Char := if isDomain word then word else withCapital word

/-- The word is a web address or begins with a character that is its own capital form. -/
def Capitalised (word : List Char) : Prop := isDomain word = true ∨ ∃ c ∈ word.head?, upper c = [c]

instance (word : List Char) : Decidable (Capitalised word) :=
  decidable_of_iff (isDomain word = true ∨ word.head?.any (fun c => upper c == [c]) = true)
    (by simp [Capitalised, Option.any_eq_true])

@[simp] lemma capitalWord_nil : capitalWord [] = [] := by decide

lemma exists_withCapital (h : w ≠ []) : ∃ d r, withCapital w = d :: r ∧ upper d = [d] := by
  cases w with
  | nil => contradiction
  | cons c r =>
    obtain ⟨d, u, hc, hd⟩ := upper_head c
    exact ⟨d, u ++ r, by rw [withCapital, hc, List.cons_append], hd⟩

lemma capitalWord_ne_nil (h : w ≠ []) : capitalWord w ≠ [] := by
  rw [capitalWord]
  split
  · exact h
  · obtain ⟨d, r, hw, -⟩ := exists_withCapital h
    exact hw ▸ List.cons_ne_nil d r

lemma capitalised_capitalWord (h : w ≠ []) : Capitalised (capitalWord w) := by
  rw [capitalWord]
  split
  · rename_i haddress
    exact .inl haddress
  · obtain ⟨d, r, hw, hd⟩ := exists_withCapital h
    exact .inr ⟨d, by rw [hw]; rfl, hd⟩

lemma isMark_cases (h : isMark c = true) : c = '!' ∨ c = '?' ∨ c = '.' := by
  simpa [isMark, or_assoc] using h

lemma isMark_of_isBlank (h : isBlank c = true) : isMark c = false := by
  rw [Bool.eq_false_iff]
  intro hmark
  obtain rfl | rfl | rfl := isMark_cases hmark <;> contradiction

lemma isMark_of_letter (h : c.toNat = 0 ∨ 'A'.toNat ≤ c.toNat) : isMark c = false := by
  rw [Bool.eq_false_iff]
  intro hmark
  obtain rfl | rfl | rfl := isMark_cases hmark <;> revert h <;> decide

lemma upper_of_isMark (h : isMark c = true) : upper c = [c] := by
  obtain rfl | rfl | rfl := isMark_cases h <;> decide

lemma endsSentence_append (hp : p ≠ []) (q : List Char) : endsSentence (q ++ p) = endsSentence p := by
  rw [endsSentence, endsSentence, List.getLast?_append, List.getLast?_eq_some_getLast hp]
  rfl

lemma endsSentence_upper (c : Char) : endsSentence (upper c) = isMark c := by
  obtain h | h := upper_eq_self_or c
  · rw [h]
    rfl
  · obtain ⟨d, r, hd, -⟩ := upper_head c
    have hno : endsSentence (upper c) = false := by
      rw [endsSentence, List.getLast?_eq_some_getLast (by simp [hd])]
      exact isMark_of_letter (h _ (List.getLast_mem _)).2
    rw [hno, eq_comm, Bool.eq_false_iff]
    intro hmark
    rw [upper_of_isMark hmark] at hno
    exact Bool.eq_false_iff.1 hno hmark

lemma endsSentence_capitalWord (w : List Char) : endsSentence (capitalWord w) = endsSentence w := by
  rw [capitalWord]
  split
  · rfl
  · cases w with
    | nil => rfl
    | cons c r =>
      cases r with
      | nil => rw [withCapital, List.append_nil, endsSentence_upper]; rfl
      | cons d r =>
        have hrest := endsSentence_append (List.cons_ne_nil d r)
        exact (hrest (upper c)).trans (hrest [c]).symm

/-! ### The parts of the sentences -/

lemma capitalizeSentence_eq (s : List Char) :
    capitalizeSentence s = if isDomain ((words s).headD []) then s else withCapital s := by
  cases s <;> rfl

/-- In a sentence the part right at its start gets the capital; after a blank this part is empty. -/
lemma splitWhere_capitalizeSentence (h : splitWhere isBlank s = p :: ps) :
    splitWhere isBlank (capitalizeSentence s) = capitalWord p :: ps := by
  cases s with
  | nil =>
    obtain ⟨rfl, rfl⟩ : [] = p ∧ [] = ps := by simpa using h
    decide
  | cons c r =>
    by_cases hc : isBlank c = true
    · have hp : p = [] := by
        rw [splitWhere, if_pos hc] at h
        exact (List.cons.inj h).1.symm
      have hkeep : capitalizeSentence (c :: r) = c :: r := by
        rw [capitalizeSentence_eq, withCapital, upper_of_isBlank hc]
        exact ite_self _
      rw [hkeep, h, hp, capitalWord_nil]
    · obtain ⟨q, qs, hq⟩ := exists_splitWhere_eq_cons isBlank r
      rw [splitWhere, if_neg hc, hq, extendFirst_cons] at h
      obtain ⟨rfl, rfl⟩ := List.cons.inj h
      have hfirst : (words (c :: r)).headD [] = c :: q := by
        simp [words, splitWhere, hc, hq]
      have hno : ∀ d ∈ upper c, isBlank d = false := by
        obtain hself | hletters := upper_eq_self_or c
        · simpa [hself] using hc
        · exact fun d hd => (hletters d hd).1
      rw [capitalizeSentence_eq, hfirst, capitalWord]
      split
      · rw [splitWhere, if_neg hc, hq, extendFirst_cons]
      · exact splitWhere_append hno hq

/-- The parts of a text with capitals, where `start` says whether the first one starts a sentence. An empty part,
which stands between two blanks, uses the start of a sentence up. -/
def capitals (start : Bool) : List (List Char) → List (List Char)
  | [] => []
  | p :: ps => (if start then capitalWord p else p) :: capitals (endsSentence p) ps

lemma sentencesAfter_cons (previous : Option Char) (c : Char) (r : List Char) :
    sentencesAfter previous (c :: r) =
      if isBlank c && endsSentence previous.toList then [] :: sentencesAfter (some c) r
      else extendFirst c (sentencesAfter (some c) r) := by
  cases previous <;> rfl

/-- The parts of the sentences are the parts of the text. The first part is left to the sentence that it may
continue; whether the next one starts a sentence is told by the last character up to there. -/
lemma splitWhere_sentencesAfter (previous : Option Char) (cs : List Char) :
    ∃ s ss p ps qs, sentencesAfter previous cs = s :: ss ∧ splitWhere isBlank cs = p :: ps ∧
      splitWhere isBlank s = p :: qs ∧
      qs ++ (ss.map capitalizeSentence).flatMap (splitWhere isBlank) =
        capitals (endsSentence (previous.toList ++ p)) ps := by
  induction cs generalizing previous with
  | nil => exact ⟨[], [], [], [], [], rfl, rfl, rfl, rfl⟩
  | cons c r ih =>
    obtain ⟨s, ss, p, ps, qs, hsent, hparts, hs, hrest⟩ := ih (some c)
    rw [sentencesAfter_cons, hsent]
    by_cases hc : isBlank c = true
    · -- the part before the blank is empty, and the blank itself ends no sentence
      have hblank : endsSentence ((some c).toList ++ p) = endsSentence p := by
        cases p with
        | nil => exact isMark_of_isBlank hc
        | cons d p => exact endsSentence_append (List.cons_ne_nil d p) _
      rw [hblank] at hrest
      have hcut : splitWhere isBlank (c :: r) = [] :: p :: ps := by rw [splitWhere, if_pos hc, hparts]
      by_cases hend : endsSentence previous.toList = true
      · refine ⟨[], s :: ss, [], p :: ps, [], by rw [hc, hend]; rfl, hcut, rfl, ?_⟩
        rw [List.append_nil, hend, capitals, if_pos rfl, ← hrest, List.map_cons, List.flatMap_cons,
          splitWhere_capitalizeSentence hs]
        rfl
      · refine ⟨c :: s, ss, [], p :: ps, p :: qs, by simp [hend], hcut, by rw [splitWhere, if_pos hc, hs], ?_⟩
        rw [List.append_nil, capitals, if_neg hend, ← hrest, List.cons_append]
    · refine ⟨c :: s, ss, c :: p, ps, qs, by simp [hc], ?_, ?_, ?_⟩
      · rw [splitWhere, if_neg hc, hparts, extendFirst_cons]
      · rw [splitWhere, if_neg hc, hs, extendFirst_cons]
      · rw [hrest, endsSentence_append (List.cons_ne_nil c p)]
        rfl

lemma words_capitalize_eq_filter (cs : List Char) :
    words (capitalize cs) = (capitals true (splitWhere isBlank cs)).filter (!·.isEmpty) := by
  obtain ⟨s, ss, p, ps, qs, hsent, hparts, hs, hrest⟩ := splitWhere_sentencesAfter none cs
  have hall : ((sentencesAfter none cs).map capitalizeSentence).flatMap (splitWhere isBlank) =
      capitals true (splitWhere isBlank cs) := by
    rw [hsent, hparts, List.map_cons, List.flatMap_cons, splitWhere_capitalizeSentence hs, List.cons_append,
      hrest]
    rfl
  rw [capitalize, words_trim, words_join, ← hall, List.filter_flatMap]
  rfl

/-! ### Words and the blanks before them -/

/-- The words among parts with the number of blanks before each one, where `k` of them stand before the parts. -/
def spacedFrom (k : Nat) : List (List Char) → List (Nat × List Char)
  | [] => []
  | [] :: ps => spacedFrom (k + 1) ps
  | (c :: p) :: ps => (k, c :: p) :: spacedFrom 1 ps

/-- The words of a text with the number of blanks before each one. -/
def spacedWords (cs : List Char) : List (Nat × List Char) := spacedFrom 0 (splitWhere isBlank cs)

theorem map_spacedWords (cs : List Char) : (spacedWords cs).map (·.2) = words cs := by
  rw [spacedWords, words]
  generalize splitWhere isBlank cs = ps
  fun_induction spacedFrom 0 ps <;> simp_all

/-- Words with capitals: the first one gets its capital if it starts a sentence and has `gap` blanks before it, and
any other one if it has a single blank before it. -/
def spacedCapitals (start : Bool) (gap : Nat) : List (Nat × List Char) → List (List Char)
  | [] => []
  | (k, w) :: r =>
    (if start && k == gap then capitalWord w else w) :: spacedCapitals (endsSentence w) 1 r

/-- Empty parts only show in the number of blanks before a word. -/
lemma filter_capitals (start : Bool) {gap k : Nat} (hk : gap ≤ k) (ps : List (List Char)) :
    (capitals (start && k == gap) ps).filter (!·.isEmpty) =
      spacedCapitals start gap (spacedFrom k ps) := by
  induction ps generalizing start gap k with
  | nil => rfl
  | cons p ps ih =>
    cases p with
    | nil =>
      have hmore : (start && k + 1 == gap) = false := by
        simp only [Bool.and_eq_false_iff, beq_eq_false_iff_ne]
        omega
      rw [spacedFrom, ← ih start (Nat.le_succ_of_le hk), hmore, capitals, capitalWord_nil, ite_self]
      rfl
    | cons c q =>
      have hword : (if start && k == gap then capitalWord (c :: q) else c :: q) ≠ [] := by
        split
        · exact capitalWord_ne_nil (List.cons_ne_nil c q)
        · exact List.cons_ne_nil c q
      rw [capitals, spacedFrom, spacedCapitals, ← ih (endsSentence (c :: q)) (Nat.le_refl 1),
        List.filter_cons_of_pos (by simpa using hword)]
      simp

theorem words_capitalize (cs : List Char) :
    words (capitalize cs) = spacedCapitals true 0 (spacedWords cs) := by
  rw [words_capitalize_eq_filter, spacedWords, ← filter_capitals true (Nat.le_refl 0)]
  rfl

lemma getElem?_spacedCapitals_succ (start : Bool) (gap : Nat) (l : List (Nat × List Char)) (i : Nat) :
    (spacedCapitals start gap l)[i + 1]? = l[i + 1]?.map fun (k, w) =>
      if startsSentence (l.map (·.2)) (i + 1) && k == 1 then capitalWord w else w := by
  induction l generalizing start gap i with
  | nil => rfl
  | cons e l ih =>
    cases i with
    | zero => cases l <;> rfl
    | succ i => exact ih (endsSentence e.2) 1 i

/-- What becomes of each word: it gets its capital exactly if it starts a sentence and has a single blank
before it, or none if it is the first word. -/
theorem getElem?_words_capitalize (cs : List Char) (i : Nat) :
    (words (capitalize cs))[i]? = (spacedWords cs)[i]?.map fun (k, w) =>
      if startsSentence (words cs) i && k == min i 1 then capitalWord w else w := by
  rw [words_capitalize, ← map_spacedWords]
  cases i with
  | zero => cases spacedWords cs <;> rfl
  | succ i =>
    rw [getElem?_spacedCapitals_succ, Nat.min_eq_right (Nat.le_add_left 1 i)]

lemma startsSentence_words_capitalize (cs : List Char) (i : Nat) :
    startsSentence (words (capitalize cs)) i = startsSentence (words cs) i := by
  cases i with
  | zero => rfl
  | succ i =>
    rw [startsSentence, startsSentence, getElem?_words_capitalize, ← map_spacedWords, List.getElem?_map]
    cases (spacedWords cs)[i]? with
    | none => rfl
    | some e =>
      simp only [Option.map_some, Option.any_some]
      split
      · exact endsSentence_capitalWord e.2
      · rfl

lemma ne_nil_of_mem_words (h : w ∈ words cs) : w ≠ [] := by
  simpa using (List.mem_filter.1 h).2

/-- A word that starts a sentence ends up with a capital exactly if it began with one before, or if a single blank
stands between it and the word before it, and none before the first word. -/
theorem capitalised_iff_spaced {v : List Char} (hv : (words (capitalize cs))[i]? = some v)
    (hstart : startsSentence (words (capitalize cs)) i = true) :
    ∃ k w, (spacedWords cs)[i]? = some (k, w) ∧ (Capitalised v ↔ k = min i 1 ∨ Capitalised w) := by
  rw [startsSentence_words_capitalize] at hstart
  rw [getElem?_words_capitalize] at hv
  obtain ⟨⟨k, w⟩, hw, hvw⟩ := Option.map_eq_some_iff.1 hv
  refine ⟨k, w, hw, ?_⟩
  have hmem : w ∈ words cs := by
    rw [← map_spacedWords]
    exact List.mem_map_of_mem (f := (·.2)) (List.mem_of_getElem? hw)
  by_cases hk : k = min i 1
  · have hcapital : v = capitalWord w := by simpa [hstart, hk] using hvw.symm
    rw [hcapital]
    exact ⟨fun _ => .inl hk, fun _ => capitalised_capitalWord (ne_nil_of_mem_words hmem)⟩
  · have hkeep : v = w := by simpa [hk] using hvw.symm
    rw [hkeep]
    exact ⟨.inr, fun h => h.resolve_left hk⟩

theorem capitalised_iff_spaced_after_mark :
    ∃ k w, (spacedWords "ok. well,  hi.  there".toList)[3]? = some (k, w) ∧
      (Capitalised "there".toList ↔ k = min 3 1 ∨ Capitalised w) :=
  capitalised_iff_spaced (by decide +kernel) (by decide +kernel)

/-- A blank before the first word keeps the capital from it. -/
theorem small_letter_after_blank :
    ¬∀ i v, (words (capitalize " hello".toList))[i]? = some v →
      startsSentence (words (capitalize " hello".toList)) i = true → Capitalised v := by
  intro h
  exact absurd (h 0 "hello".toList (by decide +kernel) rfl) (by decide +kernel)

end Moderation.Filter
