import Moderation.Proofs.Filter.Sentences

/-!
What the corrections of grammar do to the words of a text. No word is lost, added or moved: a word may get a
capital, the last one also a full stop, and a web address stays as it is.
-/
namespace Moderation.Filter
open Unicode Text

variable {cs w u v : List Char} {ws us : List (List Char)}

/-- What the corrections may make of a word, where `last` says that it ends the text. -/
structure Corrected (last : Prop) (w v : List Char) : Prop where
  form : v = w ∨ v = withCapital w ∨ last ∧ (v = w ++ ['.'] ∨ v = withCapital w ++ ['.'])
  address : isDomain w = true → v = w

/-- What the corrections may make of the words of a text: as many words in the same order. -/
structure CorrectedWords (ws vs : List (List Char)) : Prop where
  length : vs.length = ws.length
  word : ∀ (i : Nat) (w v : List Char), ws[i]? = some w → vs[i]? = some v → Corrected (i + 1 = ws.length) w v

/-- A word as it is or with a capital, which no web address gets. -/
def Kept (w u : List Char) : Prop := u = w ∨ isDomain w = false ∧ u = withCapital w

/-- The words of a text before a full stop is put behind the last one. -/
structure KeptWords (ws us : List (List Char)) : Prop where
  length : us.length = ws.length
  word : ∀ (i : Nat) (w u : List Char), ws[i]? = some w → us[i]? = some u → Kept w u

lemma kept_capitalWord (w : List Char) : Kept w (capitalWord w) := by
  rw [capitalWord]
  split
  · exact .inl rfl
  · rename_i h
    exact .inr ⟨by simpa using h, rfl⟩

lemma Kept.corrected (h : Kept w u) (last : Prop) : Corrected last w u := by
  obtain rfl | ⟨hno, rfl⟩ := h
  · exact ⟨.inl rfl, fun _ => rfl⟩
  · exact ⟨.inr (.inl rfl), fun haddress => absurd haddress (by simp [hno])⟩

/-- A full stop goes behind a word that is no web address with its capital, so that it was none before. -/
lemma Kept.corrected_stop {last : Prop} (h : Kept w u) (hu : isDomain u = false) (hlast : last) :
    Corrected last w (u ++ ['.']) := by
  obtain rfl | ⟨hno, rfl⟩ := h
  · exact ⟨.inr (.inr ⟨hlast, .inl rfl⟩), fun haddress => absurd haddress (by simp [hu])⟩
  · exact ⟨.inr (.inr ⟨hlast, .inr rfl⟩), fun haddress => absurd haddress (by simp [hno])⟩

lemma KeptWords.refl (ws : List (List Char)) : KeptWords ws ws :=
  ⟨rfl, fun _ _ _ hw hu => .inl (Option.some.inj (hu.symm.trans hw))⟩

lemma KeptWords.corrected (h : KeptWords ws us) : CorrectedWords ws us :=
  ⟨h.length, fun i w u hw hu => (h.word i w u hw hu).corrected _⟩

lemma KeptWords.corrected_stop (h : KeptWords ws (us ++ [u])) (hu : isDomain u = false) :
    CorrectedWords ws (us ++ [u ++ ['.']]) := by
  have hlength : us.length + 1 = ws.length := by simpa using h.length
  refine ⟨by simpa using hlength, fun i w v hw hv => ?_⟩
  by_cases hi : i < us.length
  · rw [List.getElem?_append_left hi] at hv
    have hsame : (us ++ [u])[i]? = some v := by rw [List.getElem?_append_left hi, hv]
    exact (h.word i w v hw hsame).corrected _
  · have hend : i = us.length := by
      have := (List.getElem?_eq_some_iff.1 hw).1
      omega
    rw [hend, List.getElem?_concat_length] at hv
    obtain rfl := Option.some.inj hv
    have hlast : (us ++ [u])[i]? = some u := by rw [hend, List.getElem?_concat_length]
    exact (h.word i w u hw hlast).corrected_stop hu (by rw [hend, hlength])

/-! ### Each of the corrections -/

lemma length_spacedCapitals (start : Bool) (gap : Nat) (l : List (Nat × List Char)) :
    (spacedCapitals start gap l).length = l.length := by
  induction l generalizing start gap with
  | nil => rfl
  | cons e l ih => exact congrArg (· + 1) (ih (endsSentence e.2) 1)

lemma keptWords_capitalize (cs : List Char) : KeptWords (words cs) (words (capitalize cs)) := by
  refine ⟨?_, fun i w u hw hu => ?_⟩
  · rw [words_capitalize, length_spacedCapitals, ← map_spacedWords, List.length_map]
  · rw [← map_spacedWords, List.getElem?_map] at hw
    obtain ⟨⟨k, w'⟩, he, rfl⟩ := Option.map_eq_some_iff.1 hw
    rw [getElem?_words_capitalize, he] at hu
    obtain rfl := Option.some.inj hu
    simp only
    split
    · exact kept_capitalWord w'
    · exact .inl rfl

lemma isBlank_of_isAsciiLetter {c : Char} (h : isAsciiLetter c = true) : isBlank c = false := by
  have hascii : c.toNat < 128 := toNat_lt_of_alphanumeric (by simp [isAsciiAlphanumeric, h])
  revert h
  exact forall_ascii (P := fun c => isAsciiLetter c = true → isBlank c = false) (by decide +kernel) hascii

lemma words_insertDot (cs : List Char) : words (insertDot cs) = words cs ∨
    ∃ ws w, words cs = ws ++ [w] ∧ words (insertDot cs) = ws ++ [w ++ ['.']] ∧ isDomain w = false := by
  rw [insertDot]
  split
  · rename_i h
    obtain ⟨hend, hno⟩ := Bool.and_eq_true_iff.1 h
    obtain ⟨c, hc, hletter⟩ := (Option.any_eq_true _ _).1 hend
    obtain ⟨ds, rfl⟩ := List.getLast?_eq_some_iff.1 hc
    obtain ⟨ws, w, hws, hstop⟩ := words_concat (isBlank_of_isAsciiLetter hletter)
      (show isBlank '.' = false by decide) ds
    exact .inr ⟨ws, w, hws, hstop, by simpa [hws] using hno⟩
  · exact .inl rfl

/-! ### All corrections -/

/-- The corrected text has the words of the text, each one as the corrections may make it. -/
theorem words_correct (s : GrammarSettings) (cs : List Char) :
    CorrectedWords (words cs) (words (s.correct cs)) := by
  have hstop {ms : List Char} (h : KeptWords (words cs) (words ms)) :
      CorrectedWords (words cs) (words (if s.insertDot.applies ms then insertDot ms else ms)) := by
    split
    · obtain hsame | ⟨us, u, hus, hdot, hu⟩ := words_insertDot ms
      · rw [hsame]
        exact h.corrected
      · rw [hus] at h
        rw [hdot]
        exact h.corrected_stop hu
    · exact h.corrected
  rw [GrammarSettings.correct]
  refine hstop ?_
  split
  · exact keptWords_capitalize cs
  · exact KeptWords.refl (words cs)

example : GrammarSettings.correct ⟨⟨true, 5⟩, ⟨true, 5⟩⟩ "so?  yes. look at www.example.com. ok".toList =
    "So?  yes. Look at www.example.com. Ok.".toList := by
  decide +kernel

end Moderation.Filter
