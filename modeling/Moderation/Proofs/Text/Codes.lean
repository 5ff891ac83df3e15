import Mathlib.Data.List.Infix
import Mathlib.Data.List.TakeWhile
import Moderation.Engine.Guard
import Moderation.LogFile
import Moderation.Proofs.Text.Color

/-!
Formatting codes that are left after stripping. Codes are deleted in one pass, which may bring together a
sign and a code character with codes between them. So a stripped text carries a code exactly if codes
stood within a code, and that is what the matching of rules and log files see of it.
-/
namespace Moderation.Text
open Unicode

namespace Color
variable {p : Char → Bool} {c : Char} {cs : List Char}

/-- Whether a sign stands directly before a character of a kind. -/
def Carries (p : Char → Bool) (cs : List Char) : Prop := ∃ c, p c = true ∧ ['§', c] <:+: cs

/-- Codes one after the other. -/
def codes (inner : List Char) : List Char := inner.flatMap fun d => ['§', d]

/-- Whether some codes stand between a sign and a character of a kind. -/
def Nests (p : Char → Bool) (cs : List Char) : Prop :=
  ∃ inner c, inner ≠ [] ∧ (∀ d ∈ inner, isStrippedCode d = true) ∧ p c = true ∧
    '§' :: (codes inner ++ [c]) <:+: cs

@[simp] theorem codes_nil : codes [] = [] := rfl

@[simp] theorem codes_cons (d : Char) (inner : List Char) :
    codes (d :: inner) = '§' :: d :: codes inner := rfl

@[simp] theorem isStrippedCode_sign : isStrippedCode '§' = false := by decide

theorem isStrippedCode_of_isColorCode (h : isColorCode c = true) : isStrippedCode c = true := by
  simp [isStrippedCode, h]

/-! ### Carrying a code -/

@[simp] theorem not_carries_nil : ¬Carries p [] := by
  simp [Carries]

lemma pair_infix_cons_iff {a : Char} : (∃ d, p d = true ∧ [a, d] <:+: c :: cs) ↔
    c = a ∧ cs.head?.any p = true ∨ ∃ d, p d = true ∧ [a, d] <:+: cs := by
  simp only [List.infix_cons_iff, List.cons_prefix_cons, and_or_left, exists_or]
  refine or_congr_left ?_
  cases cs with
  | nil => simp
  | cons d r =>
    constructor
    · rintro ⟨x, hx, rfl, hpre⟩
      obtain ⟨rfl, -⟩ := List.cons_prefix_cons.1 hpre
      exact ⟨rfl, by simpa using hx⟩
    · rintro ⟨rfl, hd⟩
      exact ⟨d, by simpa using hd, rfl, by simp⟩

theorem carries_cons_iff :
    Carries p (c :: cs) ↔ c = '§' ∧ cs.head?.any p = true ∨ Carries p cs :=
  pair_infix_cons_iff

lemma carries_cons_of_ne (hc : c ≠ '§') : Carries p (c :: cs) ↔ Carries p cs := by
  simp [carries_cons_iff, hc]

/-- No code reaches over a character that is neither a sign nor of the kind. -/
theorem carries_append_cons (hc : c ≠ '§') (hp : p c = false) (as bs : List Char) :
    Carries p (as ++ c :: bs) ↔ Carries p as ∨ Carries p bs := by
  induction as with
  | nil => simp [carries_cons_of_ne hc]
  | cons a as ih =>
    have hhead : (as ++ c :: bs).head?.any p = as.head?.any p := by
      cases as <;> simp [hp]
    rw [List.cons_append, carries_cons_iff, ih, hhead, carries_cons_iff, or_assoc]

lemma not_carries_of_no_sign (h : '§' ∉ cs) : ¬Carries p cs := by
  rintro ⟨c, -, hc⟩
  exact h (hc.subset List.mem_cons_self)

lemma carries_append_left {as : List Char} (h : '§' ∉ as) (bs : List Char) :
    Carries p (as ++ bs) ↔ Carries p bs := by
  induction as with
  | nil => rfl
  | cons a as ih =>
    simp only [List.mem_cons, not_or] at h
    rw [List.cons_append, carries_cons_of_ne (Ne.symm h.1), ih h.2]

lemma carries_append_right {bs : List Char} (h : '§' ∉ bs) (hp : ∀ b ∈ bs, p b = false)
    (as : List Char) : Carries p (as ++ bs) ↔ Carries p as := by
  cases bs with
  | nil => simp
  | cons b bs =>
    have hb : b ≠ '§' := fun hb => h (by simp [hb])
    rw [carries_append_cons hb (hp b List.mem_cons_self),
      or_iff_left (not_carries_of_no_sign fun hbs => h (List.mem_cons_of_mem b hbs))]

/-- Texts that are joined by a character without a part in codes carry a code if one of them does. -/
theorem carries_join_iff (hc : c ≠ '§') (hp : p c = false) (ps : List (List Char)) :
    Carries p (join [c] ps) ↔ ∃ q ∈ ps, Carries p q := by
  fun_induction join [c] ps with
  | case1 => simp
  | case2 q => simp
  | case3 q ps hps ih =>
    rw [List.append_assoc, List.singleton_append, carries_append_cons hc hp, ih]
    simp

lemma carries_flatten_iff (hc : c ≠ '§') (hp : p c = false) {ls : List (List Char)}
    (h : ∀ l ∈ ls, ∃ q, l = q ++ [c]) : Carries p ls.flatten ↔ ∃ l ∈ ls, Carries p l := by
  induction ls with
  | nil => simp
  | cons l ls ih =>
    obtain ⟨⟨q, rfl⟩, hls⟩ := List.forall_mem_cons.1 h
    rw [List.flatten_cons, List.append_assoc, List.singleton_append, carries_append_cons hc hp,
      ih hls, List.exists_mem_cons_iff, carries_append_cons hc hp]
    simp

/-! ### Stripping -/

/-- Stripping leaves a text as it is exactly if the text carries no code. -/
theorem strip_eq_self_iff : strip cs = cs ↔ ¬Carries isStrippedCode cs := by
  constructor
  · rintro h ⟨c, hc, before, after, rfl⟩
    have hlen := congrArg List.length h
    have hbefore := (strip_sublist before).length_le
    have hafter := (strip_sublist after).length_le
    rw [List.append_assoc, List.cons_append, strip_append_cons isStrippedCode_sign,
      List.cons_append, strip_sign_cons, if_pos hc] at hlen
    simp only [List.length_append, List.length_cons, List.nil_append] at hlen
    omega
  · intro h
    fun_induction strip cs with
    | case1 c r hc ih => exact absurd (carries_cons_iff.2 (.inl ⟨rfl, by simpa using hc⟩)) h
    | case2 c r hc ih => rw [ih fun hr => h (carries_cons_iff.2 (.inr hr))]
    | case3 c r hc ih => rw [ih fun hr => h (carries_cons_iff.2 (.inr hr))]
    | case4 => rfl

lemma strip_codes_append {inner : List Char} (h : ∀ d ∈ inner, isStrippedCode d = true)
    (cs : List Char) : strip (codes inner ++ cs) = strip cs := by
  induction inner with
  | nil => rfl
  | cons d inner ih =>
    obtain ⟨hd, hinner⟩ := List.forall_mem_cons.1 h
    rw [codes_cons, List.cons_append, List.cons_append, strip_sign_cons, if_pos hd, ih hinner]

/-- What comes before the first character that is kept is codes, and a sign is only kept where no code
begins. -/
lemma exists_of_strip_eq_cons {x : Char} {w : List Char} (h : strip cs = x :: w) :
    ∃ inner rest, (∀ d ∈ inner, isStrippedCode d = true) ∧ cs = codes inner ++ x :: rest ∧
      strip rest = w ∧ (x = '§' → rest.head?.any isStrippedCode = false) := by
  fun_induction strip cs with
  | case1 c r hc ih =>
    obtain ⟨inner, rest, hinner, rfl, hrest, hx⟩ := ih h
    exact ⟨c :: inner, rest, List.forall_mem_cons.2 ⟨hc, hinner⟩, rfl, hrest, hx⟩
  | case2 c r hc ih =>
    obtain ⟨rfl, rfl⟩ := List.cons.inj h
    exact ⟨[], c :: r, by simp, rfl, rfl, fun _ => by simpa using hc⟩
  | case3 c r hc ih =>
    obtain ⟨rfl, rfl⟩ := List.cons.inj h
    refine ⟨[], r, by simp, rfl, rfl, fun hs => ?_⟩
    cases r with
    | nil => rfl
    | cons d r => exact (hc d r hs rfl).elim
  | case4 => contradiction

lemma exists_of_strip_eq_append_cons {x : Char} {u w : List Char} (h : strip cs = u ++ x :: w) :
    ∃ before rest, cs = before ++ x :: rest ∧ strip rest = w ∧
      (x = '§' → rest.head?.any isStrippedCode = false) := by
  induction u generalizing cs with
  | nil =>
    obtain ⟨inner, rest, -, hcs, hrest, hx⟩ := exists_of_strip_eq_cons h
    exact ⟨codes inner, rest, hcs, hrest, hx⟩
  | cons y u ih =>
    obtain ⟨inner, rest, -, rfl, hrest, -⟩ := exists_of_strip_eq_cons h
    obtain ⟨before, rest', rfl, hrest', hx⟩ := ih hrest
    exact ⟨codes inner ++ y :: before, rest', by simp, hrest', hx⟩

/-- A stripped text carries a code exactly if codes stood within a code. -/
theorem carries_strip_iff (hp : ∀ c, p c = true → isStrippedCode c = true) :
    Carries p (strip cs) ↔ Nests p cs := by
  constructor
  · rintro ⟨c, hc, u, v, h⟩
    have h' : strip cs = u ++ '§' :: c :: v := by simpa using h.symm
    obtain ⟨before, rest, rfl, hrest, hhead⟩ := exists_of_strip_eq_append_cons h'
    obtain ⟨inner, rest', hinner, rfl, -, -⟩ := exists_of_strip_eq_cons hrest
    refine ⟨inner, c, ?_, hinner, hc, before, rest', by simp⟩
    -- without codes between them the sign would not have been kept
    rintro rfl
    simp [hp c hc] at hhead
  · rintro ⟨inner, c, hne, hinner, hc, before, after, rfl⟩
    obtain ⟨d, inner, rfl⟩ := List.exists_cons_of_ne_nil hne
    have hsign : c ≠ '§' := by
      rintro rfl
      simpa using hp _ hc
    have hstrip : strip ('§' :: (codes (d :: inner) ++ c :: after)) = '§' :: c :: strip after := by
      rw [codes_cons, List.cons_append, strip_sign_cons, if_neg (by simp), ← List.cons_append,
        ← codes_cons, strip_codes_append hinner, strip_cons_of_ne hsign]
    refine ⟨c, hc, strip before, strip after, ?_⟩
    have hcs : before ++ '§' :: (codes (d :: inner) ++ [c]) ++ after =
        before ++ '§' :: (codes (d :: inner) ++ c :: after) := by simp
    rw [hcs, strip_append_cons isStrippedCode_sign, hstrip]
    simp

/-- Stripping again changes nothing exactly if no codes stood within a code. -/
theorem strip_strip_iff : strip (strip cs) = strip cs ↔ ¬Nests isStrippedCode cs := by
  rw [strip_eq_self_iff, carries_strip_iff fun _ h => h]

/-! ### Codes and blanks -/

lemma toNat_of_isColorCode (h : isColorCode c = true) : 0x20 < c.toNat ∧ c.toNat < 0x80 := by
  have hspan {lo hi : ℕ} (hlo : 0x20 < lo) (hhi : hi < 0x80) (hc : lo ≤ c.toNat ∧ c.toNat ≤ hi) :
      0x20 < c.toNat ∧ c.toNat < 0x80 :=
    ⟨hlo.trans_le hc.1, hc.2.trans_lt hhi⟩
  unfold isColorCode at h
  delta Char.toLower at h
  dsimp only at h
  split at h
  · -- a capital letter
    rename_i hc
    simp only [ge_iff_le, UInt32.le_iff_toNat_le] at hc
    exact hspan (by decide) (by decide) hc
  · simp only [Char.le_def, UInt32.le_iff_toNat_le, Bool.or_eq_true, Bool.and_eq_true,
      decide_eq_true_eq, beq_iff_eq] at h
    rcases h with (((h | h) | h) | rfl) | rfl
    · exact hspan (by decide) (by decide) h
    · exact hspan (by decide) (by decide) h
    · exact hspan (by decide) (by decide) h
    · decide
    · decide

lemma isBlank_of_isColorCode (h : isColorCode c = true) : isBlank c = false := by
  obtain ⟨hlo, hhi⟩ := toNat_of_isColorCode h
  have hgap : ¬c.toNat < 0x9 ∧ ¬c.toNat ≤ 0xD ∧ ¬c.toNat < 0x20 ∧ ¬c.toNat ≤ 0x20 ∧
      c.toNat < 0x85 := by omega
  simp [isBlank, blanks, inSpans, hgap]

lemma sign_not_mem_takeWhile (cs : List Char) : '§' ∉ cs.takeWhile isBlank := fun h =>
  absurd (List.mem_takeWhile_imp h) (by decide)

theorem carries_trimStart_iff : Carries p (trimStart cs) ↔ Carries p cs := by
  conv_rhs => rw [← List.takeWhile_append_dropWhile (p := isBlank) (l := cs)]
  rw [carries_append_left (sign_not_mem_takeWhile cs), trimStart]

theorem carries_trimEnd_iff (hp : ∀ c, isBlank c = true → p c = false) :
    Carries p (trimEnd cs) ↔ Carries p cs := by
  have hcs : cs = trimEnd cs ++ (cs.reverse.takeWhile isBlank).reverse := by
    rw [trimEnd, trimStart, ← List.reverse_append, List.takeWhile_append_dropWhile,
      List.reverse_reverse]
  conv_rhs => rw [hcs]
  refine (carries_append_right ?_ (fun b hb => hp b ?_) _).symm
  · simpa using sign_not_mem_takeWhile cs.reverse
  · exact List.mem_takeWhile_imp (List.mem_reverse.1 hb)

/-- The lines of a message carry the codes of the message. -/
theorem carries_messageLines_iff (message : String) :
    (∃ line ∈ messageLines message, Carries isColorCode line.toList) ↔
      Carries isColorCode message.toList := by
  have hblank (c : Char) (hc : isBlank c = true) : isColorCode c = false := by
    by_contra hcode
    rw [isBlank_of_isColorCode (by simpa using hcode)] at hc
    contradiction
  calc (∃ line ∈ messageLines message, Carries isColorCode line.toList) ↔
      ∃ q ∈ splitOn '\n' (trim message.toList), Carries isColorCode q := by
        simp [messageLines, parts]
    _ ↔ Carries isColorCode (trim message.toList) := by
        rw [← carries_join_iff (c := '\n') (by decide) (by decide), join_splitOn]
    _ ↔ Carries isColorCode message.toList := by
        rw [trim, carries_trimEnd_iff hblank, carries_trimStart_iff]

/-- A line of a log file carries a code where its time, the player's name or the line does. -/
theorem carries_stampedLine_iff {time line : String} {player : Option String} :
    Carries isColorCode (stampedLine time player line).toList ↔
      Carries isColorCode time.toList ∨ (∃ name ∈ player, Carries isColorCode name.toList) ∨
        Carries isColorCode line.toList := by
  have hend (cs : List Char) : Carries isColorCode (cs ++ ['\n']) ↔ Carries isColorCode cs :=
    carries_append_right (by decide) (List.forall_mem_singleton.2 (by decide)) cs
  cases player with
  | none =>
    have hline : (stampedLine time none line).toList =
        '[' :: (time.toList ++ ']' :: ' ' :: line.toList) ++ ['\n'] := by simp [stampedLine]
    rw [hline, hend, carries_cons_of_ne (by decide), carries_append_cons (by decide) (by decide),
      carries_cons_of_ne (by decide)]
    simp
  | some name =>
    have hline : (stampedLine time (some name) line).toList =
        '[' :: (time.toList ++ ']' :: ' ' :: (name.toList ++ ':' :: ' ' :: line.toList)) ++
          ['\n'] := by simp [stampedLine]
    rw [hline, hend, carries_cons_of_ne (by decide), carries_append_cons (by decide) (by decide),
      carries_cons_of_ne (by decide), carries_append_cons (by decide) (by decide),
      carries_cons_of_ne (by decide)]
    simp

/-- What is added to a log file carries a code where the time, the player's name or the message that is
written does. -/
theorem carries_lines_iff {time message : String} {player : Option String} :
    Carries isColorCode
        (String.join ((messageLines message).map (stampedLine time player))).toList ↔
      Carries isColorCode time.toList ∨ (∃ name ∈ player, Carries isColorCode name.toList) ∨
        Carries isColorCode message.toList := by
  have hends : ∀ cs ∈ (messageLines message).map fun line => (stampedLine time player line).toList,
      ∃ q, cs = q ++ ['\n'] := by
    simp only [List.forall_mem_map, stampedLine, String.toList_append]
    exact fun line _ => ⟨_, rfl⟩
  -- there is a line, so what every line begins with is in the file
  have hsome (q : Prop) : (∃ line ∈ messageLines message, q) ↔ q := by
    obtain ⟨line, lines, hlines⟩ := List.exists_cons_of_ne_nil (messageLines_ne_nil message)
    simp [hlines]
  rw [String.toList_join, List.flatMap_map, List.flatMap_def,
    carries_flatten_iff (c := '\n') (by decide) (by decide) hends,
    ← carries_messageLines_iff message]
  calc (∃ cs ∈ (messageLines message).map fun line => (stampedLine time player line).toList,
      Carries isColorCode cs) ↔
      ∃ line ∈ messageLines message, Carries isColorCode time.toList ∨
        (∃ name ∈ player, Carries isColorCode name.toList) ∨ Carries isColorCode line.toList := by
        simp only [List.mem_map, exists_exists_and_eq_and, carries_stampedLine_iff]
    _ ↔ _ := by simp only [and_or_left, exists_or, hsome]

end Color

/-- Stripping is one pass: a stripped text carries a code exactly if codes stood within a code of the
text, and so do the text that rules are matched against and, apart from its time and the player's name,
an entry of a log file without codes. Stripping again changes nothing exactly if no codes stood within
a code. -/
theorem codes_after_stripping (text : String) :
    (Color.Carries isColorCode (stripColors text).toList ↔
      Color.Nests isColorCode text.toList) ∧
    (stripColors (stripColors text) = stripColors text ↔
      ¬Color.Nests isStrippedCode text.toList) ∧
    (Color.Carries isColorCode (Engine.Mode.normalized.subject text).toList ↔
      Color.Nests isColorCode text.toList) ∧
    ∀ (base time : String) (player : Option String),
      Color.Carries isColorCode
          (({ base, stripColors := true } : WriterSettings).entryText time player text).toList ↔
        Color.Carries isColorCode time.toList ∨
          (∃ name ∈ player, Color.Carries isColorCode name.toList) ∨
          Color.Nests isColorCode text.toList := by
  have hcarries : Color.Carries isColorCode (stripColors text).toList ↔
      Color.Nests isColorCode text.toList := by
    rw [toList_stripColors, Color.carries_strip_iff fun c => Color.isStrippedCode_of_isColorCode]
  refine ⟨hcarries, ?_, hcarries, fun base time player => ?_⟩
  · rw [← String.toList_inj, toList_stripColors, toList_stripColors, Color.strip_strip_iff]
  · rw [WriterSettings.entryText, if_pos rfl, Color.carries_lines_iff, hcarries]

/-- A code within a code: what is left is a code, it would be stripped by another pass, and a word with
it in the middle is not found. -/
theorem codes_after_stripping_nested :
    Color.Carries isColorCode (stripColors "§§cc").toList ∧
    stripColors (stripColors "§§cc") ≠ stripColors "§§cc" ∧
    let b : Engine.Budget := { timeout := 100, backtracks := 1000 }
    let found (text : String) : Bool := (b.isMatch none "badword" text {}).value
    found "bad§cword" = true ∧ found "bad§§ccword" = false := by
  refine ⟨⟨'c', by decide, ?_⟩, by decide, by decide +kernel, by decide +kernel⟩
  decide

end Moderation.Text
