import Moderation.Proofs.Regex.Forward
import Moderation.Proofs.Regex.Template
import Moderation.Regex.Compiled

/-!
Where the matches of a pattern lie in a text. They come one after the other, and so replacing them
leaves what lies between them and around them as it is.
-/
namespace Moderation.Regex

/-- Whether a match lies ahead of a cursor in a text. -/
structure Cursor.Ahead (text : List Char) (c d : Cursor) : Prop where
  placed : d.Placed text
  starts : c.index ≤ d.first
  ends : d.first ≤ d.index

namespace Node

section Search
variable {root : Node} {text : List Char} {c d : Cursor} {keep : Bool}

lemma ahead_of_leads (hc : c.Placed text) (h : Cursor.Leads keep { c with first := c.index } d) :
    c.Ahead text d where
  placed := h.placed ⟨hc.around, hc.index⟩
  starts := (h.first (Nat.le_refl _)).1
  ends := (h.first (Nat.le_refl _)).2

lemma ahead_of_forward (h : c.forward.Ahead text d) : c.Ahead text d :=
  { h with starts := Nat.le_trans (Cursor.Leads.forward true c).le h.starts }

lemma ahead_of_findFirst {fuel : Nat} (hc : c.Placed text) (h : root.findFirst fuel c = some d) :
    c.Ahead text d := by
  induction fuel generalizing c with
  | zero => contradiction
  | succ fuel ih =>
    rw [findFirst] at h
    split at h
    · rename_i e es he
      obtain rfl := Option.some.inj h
      exact ahead_of_leads hc (leads_of_mem_ends root _ e (by simp [he]))
    · split at h
      · contradiction
      · exact ahead_of_forward (ih ((Cursor.Leads.forward true c).placed hc) h)

lemma ahead_of_runFirst (hroot : root.keepsOrder = true) {fuel b m : Nat} (hc : c.Placed text)
    (h : root.runFirst fuel c b = .found d m) : c.Ahead text d := by
  induction fuel generalizing c b with
  | zero => contradiction
  | succ fuel ih =>
    rw [runFirst] at h
    obtain h | ⟨b', h⟩ := of_orElse h
    · obtain ⟨e, b', hce, he⟩ := sound_run root hroot h
      obtain ⟨rfl, -⟩ : e = d ∧ b' = m := by simpa [accept] using he
      exact ahead_of_leads hc hce
    · split at h
      · contradiction
      · exact ahead_of_forward (ih ((Cursor.Leads.forward true c).placed hc) h)

end Search

end Node

namespace Walk

/-- The matches of a walk before its end, whatever comes then. -/
def spans : Walk → List Cursor
  | .found m later => m :: later.spans
  | .done => []
  | .exhausted => []
  | .endless => []

lemma spans_of_matches? {w : Walk} {ms : List Cursor} (h : w.matches? = some ms) : w.spans = ms := by
  induction w generalizing ms with
  | done => exact Option.some.inj h
  | exhausted => contradiction
  | endless => contradiction
  | found m later ih =>
    obtain ⟨ms, hlater, rfl⟩ := Option.map_eq_some_iff.1 h
    rw [spans, ih hlater]

end Walk

namespace Compiled
variable {re : Compiled} {text : List Char} {c m : Cursor}

/-- Whether the matches of a pattern cannot lie outside of where they were looked for. -/
def keepsOrder (re : Compiled) : Bool := !re.extended || re.root.keepsOrder

/-- A pattern without the signs of an extended one has no look-arounds. -/
theorem keepsOrder_of_compile {budget : Nat} {pattern : List Char}
    {library : Library} (hp : isExtended pattern = false)
    (h : compile? library budget pattern = some re) : re.keepsOrder = true := by
  rw [compile?, hp, if_neg Bool.false_ne_true] at h
  obtain ⟨⟨root, names⟩, -, rfl⟩ := Option.map_eq_some_iff.1 h
  rfl

/-- A match is found ahead of where the search began. -/
theorem ahead_of_search (hre : re.keepsOrder = true) (hc : c.Placed text) {n : Nat}
    (h : re.search c = .found m n) : c.Ahead text m := by
  have hstart : Cursor.Placed text { c with slots := [], origin := c.index } :=
    ⟨hc.around, hc.index⟩
  have hplain {root : Node} {fuel b : Nat} {d : Cursor}
      (hd : root.findFirst fuel { c with slots := [], origin := c.index } = some d)
      (h : Outcome.found d b = .found m n) : c.Ahead text m := by
    obtain ⟨rfl, -⟩ : d = m ∧ b = n := by simpa using h
    exact { Node.ahead_of_findFirst hstart hd with }
  simp only [search] at h
  split at h
  · split at h
    · rename_i d hd
      exact hplain hd h
    · contradiction
  · rename_i hext
    have hroot : re.root.keepsOrder = true := by simpa [keepsOrder, hext] using hre
    split at h
    · split at h
      · rename_i d hd
        exact hplain hd h
      · contradiction
    · exact { Node.ahead_of_runFirst hroot hstart h with }

/-- Whether spans come one after the other in a text, from place `at_` on. -/
def InOrder (text : List Char) : (at_ : Nat) → List Cursor → Prop
  | _, [] => True
  | i, m :: ms => i ≤ m.first ∧ m.first ≤ m.index ∧ m.Placed text ∧ InOrder text m.index ms

/-- Where a search goes on after a match: at its end, or a character further on if it is empty. -/
def next? (m : Cursor) : Option Cursor :=
  if m.first = m.index then if m.rest.isEmpty then none else some m.forward else some m

lemma length_rest (hc : c.Placed text) : c.index + c.rest.length = text.length := by
  have h := congrArg List.length hc.around
  rw [List.length_append, List.length_reverse, ← hc.index] at h
  exact h

lemma index_le_length (hc : c.Placed text) : c.index ≤ text.length := by
  have h := length_rest hc
  omega

lemma index_forward (h : c.rest ≠ []) : c.forward.index = c.index + 1 := by
  obtain ⟨before, rest, index, slots, first, origin⟩ := c
  cases rest with
  | nil => contradiction
  | cons x r => rfl

/-- Where the search goes on, it is at a place of the text that lies ahead. -/
lemma next_ahead {d : Cursor} (hm : c.Ahead text m) (hd : next? m = some d) :
    d.Placed text ∧ m.index ≤ d.index ∧ (c.index < d.index) := by
  have hstarts := hm.starts
  have hends := hm.ends
  unfold next? at hd
  split at hd
  · split at hd
    · contradiction
    · rename_i hrest
      obtain rfl := Option.some.inj hd
      have hforward := index_forward (c := m) (by simpa using hrest)
      refine ⟨(Cursor.Leads.forward true m).placed hm.placed, ?_, ?_⟩
      · omega
      · omega
  · obtain rfl := Option.some.inj hd
    exact ⟨hm.placed, Nat.le_refl _, by omega⟩

lemma walkFrom_of_search (hre : re.keepsOrder = true) (hc : c.Placed text) {fuel n : Nat}
    {last : Option Nat} (h : re.search c = .found m n) :
    re.walkFrom (fuel + 1) last c =
      let later := (next? m).elim .done (re.walkFrom fuel (some m.index))
      if m.first = m.index ∧ last = some m.index then later else .found m later := by
  have ha := ahead_of_search hre hc h
  rw [walkFrom, h]
  by_cases hempty : m.first = m.index
  · by_cases hrest : m.rest.isEmpty = true <;> by_cases hlast : last = some m.index <;>
      simp [next?, hempty, hrest, hlast]
  · -- a match with something in it ends further on than it was looked for
    have hstarts := ha.starts
    have hends := ha.ends
    have hleads : ¬m.index ≤ c.index := by omega
    simp [next?, hempty, hleads]

lemma inOrder_of_walkFrom (hre : re.keepsOrder = true) {fuel i : Nat} {last : Option Nat}
    (hc : c.Placed text) (hi : i ≤ c.index) : InOrder text i (re.walkFrom fuel last c).spans := by
  induction fuel generalizing last c i with
  | zero => trivial
  | succ fuel ih =>
    cases hs : re.search c with
    | exhausted =>
      rw [walkFrom, hs]
      trivial
    | failed n =>
      rw [walkFrom, hs]
      trivial
    | found m n =>
      have ha := ahead_of_search hre hc hs
      have hmore {j : Nat} (hj : j ≤ m.index) :
          InOrder text j ((next? m).elim .done (re.walkFrom fuel (some m.index))).spans := by
        cases hd : next? m with
        | none => trivial
        | some d =>
          obtain ⟨hplaced, hle, -⟩ := next_ahead ha hd
          exact ih hplaced (Nat.le_trans hj hle)
      have hfirst : i ≤ m.first := Nat.le_trans hi ha.starts
      rw [walkFrom_of_search hre hc hs]
      dsimp only
      split
      · exact hmore (Nat.le_trans hfirst ha.ends)
      · exact ⟨hfirst, ha.ends, ha.placed, hmore (Nat.le_refl _)⟩

/-- The matches of a walk come one after the other, also if it is given up later. -/
theorem inOrder_walk (hre : re.keepsOrder = true) (text : List Char) :
    InOrder text 0 (re.walk text).spans :=
  inOrder_of_walkFrom hre ⟨by simp [Cursor.start], rfl⟩ (Nat.zero_le _)

lemma inOrder_of_allMatches (hre : re.keepsOrder = true) {ms : List Cursor}
    (h : re.allMatches text = some ms) : InOrder text 0 ms :=
  Walk.spans_of_matches? h ▸ inOrder_walk hre text

/-! ### What lies between the matches -/

/-- The parts of a text from place `at_` on that lie between spans and around them. -/
def gaps : (at_ : Nat) → List Char → List Cursor → List (List Char)
  | _, text, [] => [text]
  | i, text, m :: ms => text.take (m.first - i) :: gaps m.index (text.drop (m.index - i)) ms

/-- A text from place `at_` on, with each of the matches replaced. -/
def splice (replace : Cursor → List Char) : (at_ : Nat) → List Char → List Cursor → List Char
  | _, text, [] => text
  | i, text, m :: ms =>
    text.take (m.first - i) ++ replace m ++ splice replace m.index (text.drop (m.index - i)) ms

/-- Parts of a text with other parts between them. -/
def weave : List (List Char) → List (List Char) → List Char
  | g :: gs, t :: ts => g ++ t ++ weave gs ts
  | gs, [] => gs.flatten
  | [], ts => ts.flatten

@[simp] theorem splice_nil (replace : Cursor → List Char) (i : Nat) (text : List Char) :
    splice replace i text [] = text := by rw [splice]

lemma replace_ne_crash {expand : Cursor → Option (List Char)}
    (hexpand : ∀ m, m.first ≤ m.index → (expand m).isSome = true) {w : Walk} {i : Nat}
    (h : InOrder text i w.spans) (rest : List Char) : (w.replace expand i rest).result ≠ .crash := by
  induction w generalizing i rest with
  | done => simp [Walk.replace]
  | exhausted => simp [Walk.replace]
  | endless => simp [Walk.replace]
  | found m later ih =>
    obtain ⟨hi, hends, -, hlater⟩ := h
    obtain ⟨inserted, hm⟩ := Option.isSome_iff_exists.1 (hexpand m hends)
    simp only [Walk.replace, hm, if_neg (Nat.not_lt.2 hi)]
    exact mt Result.map_eq_crash_iff.1 (ih hlater _)

lemma splice_of_replace {replace : Cursor → List Char} {expand : Cursor → Option (List Char)}
    (hexpand : ∀ m x, expand m = some x → x = replace m) {w : Walk} {i : Nat} {rest out : List Char}
    (h : (w.replace expand i rest).result = .done out) :
    ∃ ms, w.matches? = some ms ∧ out = splice replace i rest ms := by
  induction w generalizing i rest out with
  | done =>
    obtain rfl := Result.done.inj h
    exact ⟨[], rfl, rfl⟩
  | exhausted => cases h
  | endless => cases h
  | found m later ih =>
    simp only [Walk.replace] at h
    split at h
    · cases h
    · rename_i inserted hm
      split at h
      · cases h
      · obtain ⟨out, hout, rfl⟩ := Result.map_eq_done_iff.1 h
        obtain ⟨ms, hms, rfl⟩ := ih hout
        exact ⟨m :: ms, by rw [Walk.matches?, hms, Option.map_some],
          by rw [splice, hexpand m inserted hm]⟩

/-- Replacing puts something else between the same parts. -/
theorem splice_eq_weave (replace : Cursor → List Char) (i : Nat) (text : List Char)
    (ms : List Cursor) : splice replace i text ms = weave (gaps i text ms) (ms.map replace) := by
  induction ms generalizing i text with
  | nil => simp [gaps, weave]
  | cons m ms ih => rw [splice, ih, gaps, List.map_cons, weave]

lemma drop_eq_take_append_drop {i j : Nat} (h : i ≤ j) (text : List Char) :
    text.drop i = (text.drop i).take (j - i) ++ text.drop j := by
  have hdrop : (text.drop i).drop (j - i) = text.drop j := by
    rw [List.drop_drop, Nat.add_sub_cancel' h]
  rw [← hdrop, List.take_append_drop]

lemma drop_eq_weave_gaps {i : Nat} {ms : List Cursor} (h : InOrder text i ms) :
    text.drop i = weave (gaps i (text.drop i) ms) (ms.map (·.groupText 0)) := by
  induction ms generalizing i with
  | nil => simp [gaps, weave]
  | cons m ms ih =>
    obtain ⟨hi, hends, hplaced, hms⟩ := h
    have hmatch : m.groupText 0 = (text.drop m.first).take (m.index - m.first) := by
      simp only [Cursor.groupText, if_pos, Cursor.slice, hplaced.around]
    have hrest : (text.drop i).drop (m.index - i) = text.drop m.index := by
      rw [List.drop_drop, Nat.add_sub_cancel' (Nat.le_trans hi hends)]
    rw [gaps, List.map_cons, weave, hrest, ← ih hms, List.append_assoc, hmatch,
      ← drop_eq_take_append_drop hends, ← drop_eq_take_append_drop hi]

/-- No replacement of matches that come one after the other crashes. -/
theorem replaceAll_ne_crash (hre : re.keepsOrder = true) (template text : List Char) :
    (re.replaceAll template text).result ≠ .crash :=
  replace_ne_crash (fun _ hends => by rw [expandTemplate?_of_le _ _ _ hends]; rfl)
    (inOrder_walk hre text) text

/-- Where a replacement gives a text, all matches are replaced in it. -/
theorem splice_of_replaceAll {template out : List Char}
    (h : (re.replaceAll template text).result = .done out) :
    ∃ ms, re.allMatches text = some ms ∧
      out = splice (expandTemplate re.extended re.names template) 0 text ms :=
  splice_of_replace (fun _ _ => eq_of_expandTemplate?) h

/-- A text is what lies between its matches together with the matches. -/
theorem eq_weave_gaps (hre : re.keepsOrder = true) {ms : List Cursor}
    (h : re.allMatches text = some ms) :
    text = weave (gaps 0 text ms) (ms.map (·.groupText 0)) := by
  simpa using drop_eq_weave_gaps (inOrder_of_allMatches hre h)

end Compiled

end Moderation.Regex
