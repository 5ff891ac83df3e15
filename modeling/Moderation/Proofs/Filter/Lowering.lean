import Moderation.Filter.Caps
import Moderation.Proofs.Text.Split
import Moderation.Proofs.Unicode.Lower

/-!
Capitals lowered word by word. Whether a word starts a sentence is carried along from the lowered word before it;
since lowering neither makes nor removes a blank or a mark at an end, it can be told from the word as it was typed.
So each word of the lowered message is given by the word in its place and the one before that.
-/
namespace Moderation.Filter
open Unicode Text

/-! ### The word in a place and the one before it -/

/-- Whether a word ends a sentence for the word after it: with a full stop or an exclamation mark. -/
def closesSentence (word : List Char) : Prop := word.getLast? = some '.' ∨ word.getLast? = some '!'

/-- The word before a place among words, if there is one. -/
def wordBefore (ws : List (List Char)) : Nat → Option (List Char)
  | 0 => none
  | i + 1 => ws[i]?

namespace CapsSettings
variable {s : CapsSettings} {usernames : List String} {w : List Char} {previous : Option (List Char)}

/-- A word of the whitelist, or the name of a player if names are kept, up to the case of ASCII letters. -/
def IsKept (s : CapsSettings) (usernames : List String) (w : List Char) : Prop :=
  (∃ entry ∈ s.whitelist, entry.toList.map Char.toLower = w.map Char.toLower) ∨
    s.ignoreUsernames = true ∧ ∃ name ∈ usernames, name.toList.map Char.toLower = w.map Char.toLower

/-- A sentence starts with the first word, and after a word that ends one and is not kept. -/
def StartsAfter (s : CapsSettings) (usernames : List String) (previous : Option (List Char)) : Prop :=
  ∀ w ∈ previous, ¬s.IsKept usernames w ∧ closesSentence w

lemma keeps_iff : s.keeps usernames w = true ↔ s.IsKept usernames w := by
  simp [keeps, isListed, IsKept, equalIgnoringAsciiCase]

instance : Decidable (s.IsKept usernames w) := decidable_of_iff _ keeps_iff

instance : DecidablePred closesSentence := fun w =>
  inferInstanceAs (Decidable (w.getLast? = some '.' ∨ w.getLast? = some '!'))

instance : Decidable (s.StartsAfter usernames previous) :=
  decidable_of_iff (previous.all fun w => decide (¬s.IsKept usernames w ∧ closesSentence w)) (by
    simp [StartsAfter, Option.all_eq_true])

/-- What becomes of a word after another one. -/
def loweredAfter (s : CapsSettings) (usernames : List String) (previous : Option (List Char)) (w : List Char) :
    List Char :=
  if s.IsKept usernames w then w
  else if s.StartsAfter usernames previous then w.take 1 ++ lowerText (w.drop 1)
  else lowerText w

/-! ### Blanks and marks of a lowered word -/

lemma lowerWord_eq (start : Bool) (w : List Char) :
    lowerWord start w = if start = true then w.take 1 ++ lowerText (w.drop 1) else lowerText w := by
  cases start with
  | false => rfl
  | true => cases w <;> rfl

lemma blank_not_mem_lowerWord (start : Bool) (h : ' ' ∉ w) : ' ' ∉ lowerWord start w := by
  have hlow {cs : List Char} (hcs : ' ' ∉ cs) : ' ' ∉ lowerText cs := by
    rwa [mem_lowerText_iff (by decide)]
  rw [lowerWord_eq]
  split
  · rw [List.mem_append, not_or]
    exact ⟨fun hm => h (List.mem_of_mem_take hm), hlow fun hm => h (List.mem_of_mem_drop hm)⟩
  · exact hlow h

lemma getLast?_lowerWord_iff {m : Char} (hm : isFixed m = true) (start : Bool) (w : List Char) :
    (lowerWord start w).getLast? = some m ↔ w.getLast? = some m := by
  cases start with
  | false => exact getLast?_lowerText_iff hm
  | true =>
    cases w with
    | nil => rfl
    | cons c r =>
      cases r with
      | nil => rfl
      | cons d r =>
        have hne : lowerText (d :: r) ≠ [] := by
          apply List.ne_nil_of_length_pos
          exact Nat.lt_of_lt_of_le (Nat.succ_pos r.length) (length_le_length_lowerText (d :: r))
        have hlow : lowerWord true (c :: d :: r) = [c] ++ lowerText (d :: r) := rfl
        rw [hlow, List.getLast?_append_of_ne_nil [c] hne, getLast?_lowerText_iff hm, List.getLast?_cons_cons]

/-- The flag that is carried past a word says whether a sentence starts after this word. -/
lemma lowerWords_cons (start : Bool) (w : List Char) (ws : List (List Char)) :
    s.lowerWords usernames start (w :: ws) =
      (if s.IsKept usernames w then w else lowerWord start w) ::
        s.lowerWords usernames (decide (s.StartsAfter usernames (some w))) ws := by
  simp only [lowerWords]
  by_cases h : s.IsKept usernames w
  · rw [if_pos (keeps_iff.2 h), if_pos h]
    have hno : decide (s.StartsAfter usernames (some w)) = false := by simp [StartsAfter, h]
    rw [hno]
  · rw [if_neg (mt keeps_iff.1 h), if_neg h]
    have hflag : ((lowerWord start w).getLast? == some '.' || (lowerWord start w).getLast? == some '!') =
        decide (s.StartsAfter usernames (some w)) := by
      rw [Bool.eq_iff_iff]
      simp [StartsAfter, h, closesSentence, getLast?_lowerWord_iff (m := '.') (by decide),
        getLast?_lowerWord_iff (m := '!') (by decide)]
    rw [hflag]

/-- Words are lowered one by one, each with a view of the word before it. -/
lemma getElem?_lowerWords (previous : Option (List Char)) (ws : List (List Char)) (i : Nat) :
    (s.lowerWords usernames (decide (s.StartsAfter usernames previous)) ws)[i]? =
      ws[i]?.map (s.loweredAfter usernames (if i = 0 then previous else ws[i - 1]?)) := by
  induction ws generalizing previous i with
  | nil => simp [lowerWords]
  | cons w ws ih =>
    rw [lowerWords_cons]
    cases i with
    | zero => simp [loweredAfter, lowerWord_eq]
    | succ i =>
      rw [List.getElem?_cons_succ, ih, List.getElem?_cons_succ]
      cases i <;> rfl

lemma blank_not_mem_lowerWords (start : Bool) {ws : List (List Char)} (h : ∀ w ∈ ws, ' ' ∉ w) :
    ∀ low ∈ s.lowerWords usernames start ws, ' ' ∉ low := by
  induction ws generalizing start with
  | nil => simp [lowerWords]
  | cons w ws ih =>
    obtain ⟨hw, hws⟩ := List.forall_mem_cons.1 h
    intro low hlow
    rw [lowerWords_cons] at hlow
    obtain rfl | hlow := List.mem_cons.1 hlow
    · split
      · exact hw
      · exact blank_not_mem_lowerWord start hw
    · exact ih _ hws low hlow

lemma splitOn_lower (s : CapsSettings) (usernames : List String) (message : List Char) :
    splitOn ' ' (s.lower usernames message) = s.lowerWords usernames true (splitOn ' ' message) := by
  have hne : s.lowerWords usernames true (splitOn ' ' message) ≠ [] := by
    apply List.ne_nil_of_length_pos
    rw [length_lowerWords]
    exact List.length_pos_iff.2 (splitOn_ne_nil ' ' message)
  rw [lower, splitOn_join hne (blank_not_mem_lowerWords true fun w => not_mem_of_mem_splitOn)]

/-- Lowering keeps the number of words between single blanks. The word in a place of the lowered message is given by
the word there and the one before it, so that it is the same in every message that has these two words in their
places. -/
theorem lower_word_by_word (s : CapsSettings) (usernames : List String) (message : List Char) :
    let ws := splitOn ' ' message
    let lows := splitOn ' ' (s.lower usernames message)
    lows.length = ws.length ∧
    (∀ i, lows[i]? = ws[i]?.map (s.loweredAfter usernames (wordBefore ws i))) ∧
    ∀ other i, (splitOn ' ' other)[i]? = ws[i]? → wordBefore (splitOn ' ' other) i = wordBefore ws i →
      (splitOn ' ' (s.lower usernames other))[i]? = lows[i]? := by
  have hword (message : List Char) (i : Nat) : (splitOn ' ' (s.lower usernames message))[i]? =
      (splitOn ' ' message)[i]?.map (s.loweredAfter usernames (wordBefore (splitOn ' ' message) i)) := by
    have hstart : decide (s.StartsAfter usernames none) = true := by simp [StartsAfter]
    rw [splitOn_lower, ← hstart, getElem?_lowerWords]
    cases i <;> rfl
  refine ⟨?_, hword message, fun other i hsame hbefore => ?_⟩
  · rw [splitOn_lower, length_lowerWords]
  · rw [hword, hword, hsame, hbefore]

/-- The last words of two messages, after a word that is kept as it is typed and after one that ends a sentence. -/
theorem lower_word_by_word_at_the_end :
    let s : CapsSettings := { whitelist := ["LOL!"] }
    let low (message : String) := splitOn ' ' (s.lower ["Notch"] message.toList)
    low "OK.  LOL! NOTCH HERE. YES! NO" = ["Ok.", "", "LOL!", "NOTCH", "here.", "Yes!", "No"].map String.toList ∧
    (splitOn ' ' "A B C D E YES! NO".toList)[6]? = (splitOn ' ' "OK.  LOL! NOTCH HERE. YES! NO".toList)[6]? ∧
    (low "A B C D E YES! NO")[6]? = (low "OK.  LOL! NOTCH HERE. YES! NO")[6]? := by
  intro s low
  have hword : (splitOn ' ' "A B C D E YES! NO".toList)[6]? =
      (splitOn ' ' "OK.  LOL! NOTCH HERE. YES! NO".toList)[6]? := by decide +kernel
  obtain ⟨-, -, hsame⟩ := lower_word_by_word s ["Notch"] "OK.  LOL! NOTCH HERE. YES! NO".toList
  exact ⟨by decide +kernel, hword, hsame _ 6 hword (by decide +kernel)⟩

end CapsSettings

end Moderation.Filter
