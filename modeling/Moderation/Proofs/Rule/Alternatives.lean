import Moderation.Proofs.Rule.Layout
import Moderation.Proofs.Rule.Texts

/-!
Lists of alternatives as they are written. A text falls into parts at a separator, and only separators at its end
are lost. Where the separator is one character, no other list is one of parts of the text, so that a list which does
not end with an empty alternative is read back from the text that joins it, and from the line of a rule.
-/
namespace Moderation
open Moderation.Text Unicode

namespace Text

/-- Parts of a text at a separator, where separators at the end of the text do not count. -/
structure SplitsInto (separator text : String) (ps : List String) : Prop where
  ne_nil : ps ≠ []
  free : ∀ p ∈ ps, ¬separator.toList <:+: p.toList
  last : ps.getLast? = some "" → ps = [""]
  restored : ∃ n, separator.intercalate ps ++ String.join (List.replicate n separator) = text

/-- A text without the blanks at its end. -/
def trimmedEnd (text : String) : String := .ofList (trimEnd text.toList)

variable {ps : List String}

lemma intercalate_append_replicate (separator : String) (h : ps ≠ []) (n : Nat) :
    separator.intercalate (ps ++ List.replicate n "") =
      separator.intercalate ps ++ String.join (List.replicate n separator) := by
  induction n generalizing ps with
  | zero => simp
  | succ n ih =>
    have hnext : separator.intercalate (ps ++ [""]) = separator.intercalate ps ++ separator := by
      rw [String.intercalate_append_of_ne_nil h (List.cons_ne_nil _ _), String.intercalate_singleton,
        String.append_empty]
    rw [List.replicate_succ, List.append_cons, ih (List.append_ne_nil_of_left_ne_nil h _), hnext,
      List.replicate_succ, String.join_cons, String.append_assoc]

end Text

/-! ### Empty alternatives at the end -/

section EmptyEnd
variable {ps qs : List String}

lemma dropEmptyEnd_concat_empty (h : ps ≠ []) : dropEmptyEnd (ps ++ [""]) = dropEmptyEnd ps := by
  have htake : (ps ++ [""]).take 1 = ps.take 1 := by
    obtain ⟨p, ps, rfl⟩ := List.exists_cons_of_ne_nil h
    rfl
  simp [dropEmptyEnd, htake]

lemma dropEmptyEnd_of_getLast? (h : ps.getLast? ≠ some "") : dropEmptyEnd ps = ps := by
  cases ps using List.reverseRecOn with
  | nil => rfl
  | append_singleton ps p =>
    have hp : p ≠ "" := by simpa using h
    simp [dropEmptyEnd, hp]

/-- What is left are the parts before the empty ones at the end, or one empty part. -/
theorem dropEmptyEnd_eq_iff (h : qs ≠ []) :
    dropEmptyEnd ps = qs ↔ (qs.getLast? = some "" → qs = [""]) ∧ ∃ n, ps = qs ++ List.replicate n "" := by
  constructor
  · -- the empty parts are dropped from the end, one by one
    intro hqs
    induction ps using List.reverseRecOn with
    | nil => exact absurd hqs.symm h
    | append_singleton ps p ih =>
      by_cases hp : p = ""
      · subst hp
        cases ps with
        | nil => exact ⟨fun _ => hqs.symm, 0, by rw [← hqs]; rfl⟩
        | cons q ps =>
          rw [dropEmptyEnd_concat_empty (List.cons_ne_nil _ _)] at hqs
          obtain ⟨hlast, n, hn⟩ := ih hqs
          exact ⟨hlast, n + 1, by rw [hn, List.replicate_succ', List.append_assoc]⟩
      · rw [dropEmptyEnd_of_getLast? (by simpa using hp)] at hqs
        subst hqs
        exact ⟨fun hlast => absurd (by simpa using hlast) hp, 0, by simp⟩
  · rintro ⟨hlast, n, rfl⟩
    induction n with
    | zero =>
      rw [List.replicate_zero, List.append_nil]
      by_cases he : qs.getLast? = some ""
      · rw [hlast he, dropEmptyEnd_singleton]
      · exact dropEmptyEnd_of_getLast? he
    | succ n ih =>
      rw [List.replicate_succ', ← List.append_assoc,
        dropEmptyEnd_concat_empty (List.append_ne_nil_of_left_ne_nil h _), ih]

/-- Nothing but separators at the end is lost of a text. -/
theorem splitsInto_dropEmptyEnd {separator : String} (h : separator ≠ "") (text : String) :
    SplitsInto separator text (dropEmptyEnd (partsAround separator text)) := by
  have hne := dropEmptyEnd_ne_nil (partsAround_ne_nil separator text)
  obtain ⟨hlast, n, hn⟩ := (dropEmptyEnd_eq_iff hne).1 rfl
  refine ⟨hne, fun p hp => not_infix_of_mem_partsAround h (mem_of_mem_dropEmptyEnd hp), hlast, n, ?_⟩
  rw [← intercalate_append_replicate separator hne, ← hn, intercalate_partsAround h]

lemma alternatives_eq_dropEmptyEnd (text : String) :
    alternatives text = dropEmptyEnd (partsAround "|" text) := by
  rw [partsAround, splitOnText, show "|".toList = ['|'] from rfl, splitAround_singleton]
  rfl

/-- The alternatives of a text are parts of it, and no other list is one of its parts. -/
theorem alternatives_eq_iff {text : String} : alternatives text = ps ↔ SplitsInto "|" text ps := by
  constructor
  · rintro rfl
    rw [alternatives_eq_dropEmptyEnd]
    exact splitsInto_dropEmptyEnd (by decide) text
  · rintro ⟨hne, hfree, hlast, n, rfl⟩
    rw [← intercalate_append_replicate "|" hne, alternatives, parts_intercalate rfl]
    · exact (dropEmptyEnd_eq_iff hne).2 ⟨hlast, n, rfl⟩
    · exact List.append_ne_nil_of_left_ne_nil hne _
    · intro p hp
      obtain hp | hp := List.mem_append.1 hp
      · exact fun hm => hfree p hp ((List.singleton_infix_iff _ _).2 hm)
      · rw [List.eq_of_mem_replicate hp]
        simp

/-- A separator whose end can begin the next one leaves a choice: it is found from left to right. -/
example : SplitsInto " with " "a with with b" ["a with", "b"] ∧
    dropEmptyEnd (partsAround " with " "a with with b") = ["a", "with b"] :=
  ⟨⟨by decide, by decide, by decide, 0, by decide⟩, by decide⟩

lemma alternatives_intercalate (hne : ps ≠ []) (hfree : ∀ p ∈ ps, '|' ∉ p.toList)
    (hlast : ps.getLast? ≠ some "") : alternatives ("|".intercalate ps) = ps := by
  have hparts : ∀ p ∈ ps, ¬"|".toList <:+: p.toList := fun p hp hi =>
    hfree p hp ((List.singleton_infix_iff _ _).1 hi)
  exact alternatives_eq_iff.2 ⟨hne, hparts, fun he => absurd he hlast, 0, by simp⟩

end EmptyEnd

/-! ### Lines with lists -/

namespace Text
variable {s : String}

lemma trimmedEnd_append (a : String) (h : trimmedEnd s ≠ "") : trimmedEnd (a ++ s) = a ++ trimmedEnd s := by
  have hs : (trimStart s.toList.reverse).isEmpty = false := by
    simpa [trimmedEnd, trimEnd] using h
  rw [trimStart] at hs
  apply String.toList_injective
  simp [trimmedEnd, trimEnd, trimStart, List.dropWhile_append, hs]

lemma trimmed_append {words : String} {w : Char} (hw : words.toList.head? = some w) (hblank : isBlank w = false)
    (h : trimmedEnd s ≠ "") : trimmed (words ++ s) = words ++ trimmedEnd s := by
  have hstart : trimStart (words ++ s).toList = (words ++ s).toList := by
    obtain ⟨ws, hws⟩ := List.head?_eq_some_iff.1 hw
    simp [trimStart, hws, hblank]
  rw [← trimmedEnd_append words h, trimmed, trim, hstart, trimmedEnd]

/-- What stands before the last member of a list does not depend on it. -/
lemma exists_intercalate_concat (separator : String) (ps : List String) :
    ∃ lead, ∀ last, separator.intercalate (ps ++ [last]) = lead ++ last := by
  by_cases hps : ps = []
  · exact ⟨"", fun last => by simp [hps]⟩
  · refine ⟨separator.intercalate ps ++ separator, fun last => ?_⟩
    rw [String.intercalate_append_of_ne_nil hps (List.cons_ne_nil _ _), String.intercalate_singleton]

lemma mem_of_mem_trimmedEnd {c : Char} (h : c ∈ (trimmedEnd s).toList) : c ∈ s.toList := by
  rw [trimmedEnd, String.toList_ofList] at h
  exact List.mem_reverse.1 ((List.dropWhile_sublist _).subset (List.mem_reverse.1 h))

end Text

/-- The words before a list of texts with `|` between them, and the directive that takes the list. -/
def Directive.withAlternatives : List (String × (List String → Directive)) :=
  [("then replace ", .replace), ("then rewrite ", .rewrite), ("then console ", .run)]

section Lines
variable {c : Category} {handlers : Registry} {ps : List String} {list : String × (List String → Directive)}

lemma form_of_mem_withAlternatives (h : list ∈ Directive.withAlternatives) (c : Category) (handlers : Registry)
    (s : String) : Directive.StandardForm c handlers (list.1 ++ s) (list.2 (alternatives s)) := by
  simp only [Directive.withAlternatives, List.mem_cons, List.not_mem_nil, or_false] at h
  obtain rfl | rfl | rfl := h
  · exact .replace s
  · exact .rewrite s
  · exact .console s

lemma linesOf_pair {a b : String} (ha : '\n' ∉ a.toList) (hb : '\n' ∉ b.toList)
    (hsa : saysNothing (trimmed a) = false) (hsb : saysNothing (trimmed b) = false) :
    linesOf (a ++ "\n" ++ b) = [⟨1, trimmed a⟩, ⟨2, trimmed b⟩] := by
  have hparts : parts '\n' (a ++ "\n" ++ b) = [a, b] := by
    have hsplit : splitOn '\n' (a.toList ++ '\n' :: b.toList) = [a.toList, b.toList] := by
      rw [splitOn_append_cons ha, splitOn_of_not_mem hb]
    simp [parts, hsplit]
  rw [linesOf_eq_numberedFrom, trimmedLines, hparts]
  simp [numberedFrom, hsa, hsb]

lemma readRules_of_linesOf_eq {source pattern text : String} {d : Directive} {m n : Nat} (hc : c ≠ .packet)
    (hsource : linesOf source = [⟨m, Progress.opening ++ pattern⟩, ⟨n, text⟩])
    (htext : after Progress.opening text = none) (hd : Directive.StandardForm c handlers text d) :
    readRules c handlers source = .ok [((Draft.opened c pattern).set d).build] := by
  have hsplits : Splits (linesOf source) [] [⟨⟨m, Progress.opening ++ pattern⟩, pattern, [⟨n, text⟩]⟩] :=
    { lines := by simp [hsource]
      stray := by simp
      head := by simpa using after_eq_some_iff.2 rfl
      body := by simpa using htext }
  have hreads : c.Reads handlers [⟨n, text⟩] [d] := by
    refine ⟨.cons ?_ .nil, by simp⟩
    rw [Category.Form, if_neg hc]
    exact hd
  exact hsplits.readRules_eq_ok_iff.2 ⟨rfl, .cons ⟨[d], hreads, rfl⟩ .nil, List.pairwise_singleton _ _⟩

/-- What the words before lists have in common: they begin with one letter, are on one line and open no rule. -/
lemma words_of_mem_withAlternatives : ∀ list ∈ Directive.withAlternatives,
    list.1.toList.head? = some 't' ∧ '\n' ∉ list.1.toList ∧
      ¬Progress.opening.toList <+: list.1.toList ∧ ¬list.1.toList <+: Progress.opening.toList := by
  decide

lemma head?_of_mem_withAlternatives (h : list ∈ Directive.withAlternatives) (s : String) :
    (list.1 ++ s).toList.head? = some 't' := by
  simp [(words_of_mem_withAlternatives list h).1]

lemma saysNothing_of_head? {text : String} {w : Char} (h : text.toList.head? = some w) (hw : w ≠ '#') :
    saysNothing text = false := by
  obtain ⟨ws, hws⟩ := List.head?_eq_some_iff.1 h
  have hne : text ≠ "" := by
    rintro rfl
    simp at hws
  simp [saysNothing, beginsWith, hne, hws, List.isPrefixOf, hw.symm]

lemma newline_not_mem_of_mem_withAlternatives (h : list ∈ Directive.withAlternatives)
    (hps : ∀ p ∈ ps, '\n' ∉ p.toList) : '\n' ∉ (list.1 ++ "|".intercalate ps).toList := by
  rw [String.toList_append]
  intro hm
  obtain hm | hm := List.mem_append.1 hm
  · exact (words_of_mem_withAlternatives list h).2.1 hm
  · obtain hm | ⟨p, hp, hm⟩ := mem_intercalate hm
    · exact absurd hm (by decide)
    · exact hps p hp hm

lemma readRules_of_mem_withAlternatives (h : list ∈ Directive.withAlternatives) (hc : c ≠ .packet)
    (handlers : Registry) {last pattern : String} (hps : ∀ p ∈ ps ++ [last], '|' ∉ p.toList ∧ '\n' ∉ p.toList)
    (hlast : trimmedEnd last ≠ "") (hnewline : '\n' ∉ pattern.toList) (hpattern : trimmedEnd pattern ≠ "") :
    readRules c handlers ("match " ++ pattern ++ "\n" ++ (list.1 ++ "|".intercalate (ps ++ [last]))) =
      .ok [((Draft.opened c (trimmedEnd pattern)).set (list.2 (ps ++ [trimmedEnd last]))).build] := by
  have hopener : trimmed ("match " ++ pattern) = "match " ++ trimmedEnd pattern :=
    trimmed_append (w := 'm') (by decide) (by decide) hpattern
  have hline : trimmed (list.1 ++ "|".intercalate (ps ++ [last])) =
      list.1 ++ "|".intercalate (ps ++ [trimmedEnd last]) := by
    obtain ⟨lead, hlead⟩ := exists_intercalate_concat "|" ps
    rw [hlead, hlead, ← String.append_assoc, ← String.append_assoc]
    exact trimmed_append (head?_of_mem_withAlternatives h lead) (by decide) hlast
  have hread : alternatives ("|".intercalate (ps ++ [trimmedEnd last])) = ps ++ [trimmedEnd last] := by
    simp only [List.forall_mem_append, List.forall_mem_singleton] at hps
    have hfree : ∀ p ∈ ps ++ [trimmedEnd last], '|' ∉ p.toList := by
      simp only [List.forall_mem_append, List.forall_mem_singleton]
      exact ⟨fun p hp => (hps.1 p hp).1, fun hm => hps.2.1 (mem_of_mem_trimmedEnd hm)⟩
    exact alternatives_intercalate (by simp) hfree (by simpa using hlast)
  have hlines := linesOf_pair (a := "match " ++ pattern) (b := list.1 ++ "|".intercalate (ps ++ [last]))
    (by simpa using hnewline) (newline_not_mem_of_mem_withAlternatives h fun p hp => (hps p hp).2)
    (hopener ▸ saysNothing_of_head? (w := 'm') (by simp) (by decide))
    (hline ▸ saysNothing_of_head? (head?_of_mem_withAlternatives h _) (by decide))
  rw [hopener, hline] at hlines
  have hcloses := Directive.after_append_of_apart (words_of_mem_withAlternatives list h).2.2
  refine readRules_of_linesOf_eq hc hlines (hcloses _) ?_
  simpa only [hread] using form_of_mem_withAlternatives h c handlers ("|".intercalate (ps ++ [trimmedEnd last]))

end Lines

/-- Of a text that is split, only separators at its end are lost. A list whose members have no separator and whose
last one is not empty is read back from the text that joins it, and so it can be written in every directive that
takes such lists. In a file it stands on one line, and the blanks at the end of that line are trimmed. -/
theorem alternatives_read_back :
    (∀ text, SplitsInto "|" text (alternatives text)) ∧
    (∀ text, SplitsInto " with " text (dropEmptyEnd (partsAround " with " text))) ∧
    (∀ ps : List String, ps ≠ [] → (∀ p ∈ ps, '|' ∉ p.toList) → ps.getLast? ≠ some "" →
      alternatives ("|".intercalate ps) = ps ∧
      ∀ list ∈ Directive.withAlternatives, ∀ c handlers,
        Directive.ofText c handlers (list.1 ++ "|".intercalate ps) = .ok (list.2 ps)) ∧
    ∀ (ps : List String) (last pattern : String), (∀ p ∈ ps ++ [last], '|' ∉ p.toList ∧ '\n' ∉ p.toList) →
      trimmedEnd last ≠ "" → '\n' ∉ pattern.toList → trimmedEnd pattern ≠ "" →
      ∀ list ∈ Directive.withAlternatives, ∀ c ≠ .packet, ∀ handlers,
        readRules c handlers ("match " ++ pattern ++ "\n" ++ (list.1 ++ "|".intercalate (ps ++ [last]))) =
          .ok [((Draft.opened c (trimmedEnd pattern)).set (list.2 (ps ++ [trimmedEnd last]))).build] := by
  refine ⟨fun text => alternatives_eq_iff.1 rfl, splitsInto_dropEmptyEnd (by decide), ?_, ?_⟩
  · intro ps hne hfree hlast
    have hread := alternatives_intercalate hne hfree hlast
    refine ⟨hread, fun list hlist c handlers => Directive.ofText_eq_ok_iff.2 ?_⟩
    simpa only [hread] using form_of_mem_withAlternatives hlist c handlers ("|".intercalate ps)
  · intro ps last pattern hps hlast hnewline hpattern list hlist c hc handlers
    exact readRules_of_mem_withAlternatives hlist hc handlers hps hlast hnewline hpattern

/-- An alternative with blanks at its end, and an empty one before it. -/
theorem alternatives_read_back_of_blank_end :
    let ps := ["say no", "", "say  "]
    alternatives "say no||say  " = ps ∧
      Directive.ofText .chat {} "then console say no||say  " = .ok (.run ps) ∧
      readRules .chat {} "match x \nthen console say no||say  " =
        .ok [{ pattern := "x", commands := ["say no", "", "say"] }] := by
  intro ps
  obtain ⟨-, -, hlists, hfiles⟩ := alternatives_read_back
  have hrun : ("then console ", Directive.run) ∈ Directive.withAlternatives := by simp [Directive.withAlternatives]
  obtain ⟨hread, hline⟩ := hlists ps (by decide) (by decide) (by decide)
  refine ⟨hread, hline _ hrun .chat {}, ?_⟩
  exact hfiles ["say no", ""] "say  " "x " (by decide) (by decide) (by decide) (by decide) _ hrun .chat (by decide) {}

end Moderation
