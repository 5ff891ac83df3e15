import Mathlib.Data.List.Chain
import Moderation.Proofs.Text.Codes
import Moderation.Proofs.Unicode.Lower

/-!
Codes that are written with ampersands. No code character is an ampersand, so a text has one reading as codes and
characters that belong to none. Translating a text keeps these characters and leaves nothing to be translated, and
stripping what is translated leaves these characters only.
-/
namespace Moderation.Text

namespace Color
open Unicode

variable {c : Char} {cs : List Char}

/-! ### Readings -/

/-- A piece of a text: a code that is written with an ampersand, or a character that belongs to none. -/
inductive Piece
  | code (c : Char)
  | plain (c : Char)

namespace Piece

def written : Piece → List Char
  | code c => ['&', c]
  | plain c => [c]

/-- A code with its sign, and with its character as a small one. -/
def translated : Piece → List Char
  | code c => ['§', c.toLower]
  | plain c => [c]

def uncoded : Piece → List Char
  | code _ => []
  | plain c => [c]

end Piece

variable {ps : List Piece}

/-- Whether pieces make up a text, with all its codes among them: an ampersand that belongs to none stands before no
code character. It may stand before a code, which begins with another ampersand. -/
structure IsReading (ps : List Piece) (cs : List Char) : Prop where
  text : ps.flatMap Piece.written = cs
  codes : ∀ c, .code c ∈ ps → isColorCode c = true
  plain : ps.IsChain fun p q => p = .plain '&' → ∀ c, q = .plain c → isColorCode c = false

/-- The pieces of a text, found from left to right. -/
def pieces : List Char → List Piece
  | '&' :: c :: r => if isColorCode c then .code c :: pieces r else .plain '&' :: pieces (c :: r)
  | c :: r => .plain c :: pieces r
  | [] => []

@[simp] theorem isColorCode_ampersand : isColorCode '&' = false := by decide
@[simp] theorem isColorCode_sign : isColorCode '§' = false := by decide

lemma pieces_cons_of_ne (hc : c ≠ '&') (cs : List Char) : pieces (c :: cs) = .plain c :: pieces cs := by
  rw [pieces]
  rintro - - rfl
  contradiction

lemma pieces_code (hc : isColorCode c = true) (cs : List Char) : pieces ('&' :: c :: cs) = .code c :: pieces cs := by
  rw [pieces, if_pos hc]

lemma pieces_ampersand (h : cs.head?.any isColorCode = false) : pieces ('&' :: cs) = .plain '&' :: pieces cs := by
  cases cs with
  | nil => rw [pieces]; simp
  | cons c r => rw [pieces, if_neg (by simpa using h)]

lemma IsReading.cons_code (hc : isColorCode c = true) (h : IsReading ps cs) :
    IsReading (.code c :: ps) ('&' :: c :: cs) := by
  refine ⟨by simp [h.text, Piece.written], ?_, ?_⟩
  · intro d hd
    obtain hd | hd := List.mem_cons.1 hd
    · obtain rfl := Piece.code.inj hd
      exact hc
    · exact h.codes d hd
  · apply List.isChain_cons.2
    exact ⟨fun q _ hcode => by simp at hcode, h.plain⟩

lemma IsReading.cons_plain (hc : c = '&' → cs.head?.any isColorCode = false) (h : IsReading ps cs) :
    IsReading (.plain c :: ps) (c :: cs) := by
  refine ⟨by simp [h.text, Piece.written], fun d hd => h.codes d (by simpa using hd), ?_⟩
  apply List.isChain_cons.2
  refine ⟨?_, h.plain⟩
  rintro q hq hp d rfl
  -- a character that is the first piece is first in the text
  obtain ⟨rest, rfl⟩ := List.head?_eq_some_iff.1 hq
  have hhead : cs.head? = some d := by
    rw [← h.text]
    rfl
  simpa [hhead] using hc (Piece.plain.inj hp)

lemma isReading_pieces (cs : List Char) : IsReading (pieces cs) cs := by
  fun_induction pieces cs with
  | case1 c r hc ih => exact ih.cons_code hc
  | case2 c r hc ih => exact ih.cons_plain fun _ => by simpa using hc
  | case3 c r hc ih =>
    apply ih.cons_plain
    intro hamp
    cases r with
    | nil => rfl
    | cons d r => exact (hc d r hamp rfl).elim
  | case4 => exact ⟨rfl, by simp, by simp⟩

lemma eq_pieces_of_isReading (h : IsReading ps cs) : ps = pieces cs := by
  obtain ⟨rfl, hcodes, hplain⟩ := h
  induction ps with
  | nil => rfl
  | cons p ps ih =>
    obtain ⟨hhead, htail⟩ := List.isChain_cons.1 hplain
    have hps := ih (fun c hc => hcodes c (List.mem_cons_of_mem p hc)) htail
    rw [List.flatMap_cons]
    cases p with
    | code c =>
      have hc : isColorCode c = true := hcodes c List.mem_cons_self
      rw [Piece.written, List.cons_append, List.singleton_append, pieces_code hc, ← hps]
    | plain c =>
      rw [Piece.written, List.singleton_append]
      by_cases hc : c = '&'
      · subst hc
        have hno : (ps.flatMap Piece.written).head?.any isColorCode = false := by
          cases ps with
          | nil => rfl
          | cons q ps =>
            cases q with
            | code d => exact isColorCode_ampersand
            | plain d => exact hhead (.plain d) rfl rfl d rfl
        rw [pieces_ampersand hno, ← hps]
      · rw [pieces_cons_of_ne hc, ← hps]

/-- A text has one reading. -/
theorem isReading_iff : IsReading ps cs ↔ ps = pieces cs := by
  refine ⟨eq_pieces_of_isReading, ?_⟩
  rintro rfl
  exact isReading_pieces cs

/-! ### Translating -/

/-- Whether an ampersand stands directly before a code character. -/
def Translatable (cs : List Char) : Prop := ∃ c, isColorCode c = true ∧ ['&', c] <:+: cs

lemma translatable_cons_iff :
    Translatable (c :: cs) ↔ c = '&' ∧ cs.head?.any isColorCode = true ∨ Translatable cs :=
  pair_infix_cons_iff

lemma isColorCode_toLower (hc : isColorCode c = true) : isColorCode c.toLower = true :=
  forall_ascii (P := fun c => isColorCode c = true → isColorCode c.toLower = true) (by decide)
    (toNat_of_isColorCode hc).2 hc

theorem translate_eq_flatMap (cs : List Char) : translate cs = (pieces cs).flatMap Piece.translated := by
  fun_induction pieces cs with
  | case1 c r hc ih => rw [translate, if_pos hc, ih, List.flatMap_cons]; rfl
  | case2 c r hc ih => rw [translate, if_neg hc, ih, List.flatMap_cons]; rfl
  | case3 c r hc ih => rw [translate.eq_2 c r hc, ih, List.flatMap_cons]; rfl
  | case4 => simp

theorem length_translate (cs : List Char) : (translate cs).length = cs.length := by
  have hpiece : ∀ p ∈ pieces cs, p.translated.length = p.written.length := by
    rintro (c | c) - <;> rfl
  conv_rhs => rw [← (isReading_pieces cs).text]
  rw [translate_eq_flatMap, List.length_flatMap, List.length_flatMap, List.map_congr_left hpiece]

/-- Translating makes no code character where there was none. -/
lemma head?_translate (h : cs.head?.any isColorCode = false) : (translate cs).head?.any isColorCode = false := by
  fun_cases translate cs with
  | case1 => exact isColorCode_sign
  | case2 => exact isColorCode_ampersand
  | case3 => exact h
  | case4 => rfl

/-- A translated text has nothing to be translated. -/
theorem not_translatable_translate (cs : List Char) : ¬Translatable (translate cs) := by
  fun_induction translate cs with
  | case1 c r hc ih =>
    have hlower : c.toLower ≠ '&' := by
      intro hamp
      have hcode := isColorCode_toLower hc
      rw [hamp, isColorCode_ampersand] at hcode
      contradiction
    simp [translatable_cons_iff, hlower, ih]
  | case2 c r hc ih =>
    have hhead : (translate (c :: r)).head?.any isColorCode = false := head?_translate (by simpa using hc)
    simp [translatable_cons_iff, hhead, ih]
  | case3 c r hc ih =>
    have hhead : c = '&' → (translate r).head?.any isColorCode = false := by
      intro hamp
      cases r with
      | nil => simp
      | cons d r => exact (hc d r hamp rfl).elim
    rw [translatable_cons_iff, not_or, not_and, Bool.not_eq_true]
    exact ⟨hhead, ih⟩
  | case4 => simp [Translatable]

theorem translate_eq_self_of_not_translatable (h : ¬Translatable cs) : translate cs = cs := by
  fun_induction translate cs with
  | case1 c r hc ih => exact absurd (translatable_cons_iff.2 (.inl ⟨rfl, by simpa using hc⟩)) h
  | case2 c r hc ih => rw [ih fun hr => h (translatable_cons_iff.2 (.inr hr))]
  | case3 c r hc ih => rw [ih fun hr => h (translatable_cons_iff.2 (.inr hr))]
  | case4 => rfl

theorem translate_translate (cs : List Char) : translate (translate cs) = translate cs :=
  translate_eq_self_of_not_translatable (not_translatable_translate cs)

/-! ### Stripping what is translated -/

lemma isStrippedCode_toLower (hc : isColorCode c = true) : isStrippedCode c.toLower = true :=
  isStrippedCode_of_isColorCode (isColorCode_toLower hc)

/-- The codes that are translated are those that are stripped. -/
theorem strip_translated (hcodes : ∀ c, .code c ∈ ps → isColorCode c = true)
    (hsign : '§' ∉ ps.flatMap Piece.uncoded) :
    strip (ps.flatMap Piece.translated) = ps.flatMap Piece.uncoded := by
  induction ps with
  | nil => exact strip_nil
  | cons p ps ih =>
    rw [List.flatMap_cons, List.mem_append, not_or] at hsign
    have hps := ih (fun c hc => hcodes c (List.mem_cons_of_mem p hc)) hsign.2
    rw [List.flatMap_cons, List.flatMap_cons, ← hps]
    cases p with
    | code c => exact (strip_sign_cons _ _).trans (if_pos (isStrippedCode_toLower (hcodes c List.mem_cons_self)))
    | plain c => exact strip_cons_of_ne (by rintro rfl; exact hsign.1 List.mem_cons_self) _

lemma mem_written_of_mem_uncoded (h : c ∈ ps.flatMap Piece.uncoded) : c ∈ ps.flatMap Piece.written := by
  obtain ⟨p, hp, hc⟩ := List.mem_flatMap.1 h
  apply List.mem_flatMap.2
  refine ⟨p, hp, ?_⟩
  cases p with
  | code d => simp [Piece.uncoded] at hc
  | plain d => exact hc

end Color

/-- A text that is translated keeps its length and has nothing to be translated again. It is the text in its one reading
with each code translated, and if the text has no section sign, then stripping leaves the text without these codes,
and no sign. -/
theorem colorize_then_strip (text : String) :
    (colorize text).length = text.length ∧
    colorize (colorize text) = colorize text ∧
    ¬Color.Translatable (colorize text).toList ∧
    ∃ ps, (∀ qs, Color.IsReading qs text.toList ↔ qs = ps) ∧
      (colorize text).toList = ps.flatMap Color.Piece.translated ∧
      ('§' ∉ text.toList →
        (stripColors (colorize text)).toList = ps.flatMap Color.Piece.uncoded ∧
        '§' ∉ (stripColors (colorize text)).toList) := by
  refine ⟨?_, ?_, ?_, Color.pieces text.toList, fun qs => Color.isReading_iff, ?_, fun hsign => ?_⟩
  · rw [← String.length_toList, ← String.length_toList, toList_colorize, Color.length_translate]
  · apply String.toList_injective
    rw [toList_colorize, toList_colorize, Color.translate_translate]
  · rw [toList_colorize]
    exact Color.not_translatable_translate text.toList
  · rw [toList_colorize, Color.translate_eq_flatMap]
  · have hread := Color.isReading_pieces text.toList
    have hno : '§' ∉ (Color.pieces text.toList).flatMap Color.Piece.uncoded := by
      intro hmem
      apply hsign
      rw [← hread.text]
      exact Color.mem_written_of_mem_uncoded hmem
    have hstrip : (stripColors (colorize text)).toList = (Color.pieces text.toList).flatMap Color.Piece.uncoded := by
      rw [toList_stripColors, toList_colorize, Color.translate_eq_flatMap, Color.strip_translated hread.codes hno]
    rw [hstrip]
    exact ⟨rfl, hno⟩

/-- An ampersand before a code belongs to none, also if a code character follows it once the code is gone. -/
theorem colorize_then_strip_doubled :
    let text := "&&Lone& &&&1 two &"
    '§' ∉ text.toList ∧
    ∃ ps, (∀ qs, Color.IsReading qs text.toList ↔ qs = ps) ∧
      (stripColors (colorize text)).toList = ps.flatMap Color.Piece.uncoded ∧
      stripColors (colorize text) = "&one& && two &" := by
  intro text
  have hsign : '§' ∉ text.toList := by decide
  obtain ⟨-, -, -, ps, hread, -, hstrip⟩ := colorize_then_strip text
  exact ⟨hsign, ps, hread, (hstrip hsign).1, by decide⟩

end Moderation.Text
