import Mathlib.Tactic.IntervalCases
import Moderation.Proofs.Rule.Alike

/-!
Duplicates in a file of rules. If all blocks of a file build rules, one of them is refused as a
duplicate exactly if two rules are alike. Equal rules are alike. Alike rules are equal if their texts
are plain, and need not be otherwise: an alternative with a comma looks like two alternatives, and
formatting codes are not looked at.
-/
namespace Moderation
open Moderation.Text

/-- Rules that are shown as they are: no text has a section sign, and no alternative and no command has
a comma. -/
structure Rule.Plain (r : Rule) : Prop where
  texts : r.Texts ('§' ∉ ·.toList)
  replacements : ∀ s ∈ r.replacements, ',' ∉ s.toList
  rewrites : ∀ s ∈ r.rewrites, ',' ∉ s.toList
  commands : ∀ s ∈ r.commands, ',' ∉ s.toList

/-! ### Plain texts -/

lemma eq_of_map_eq {α β : Type} {f : α → β} {o p : Option α}
    (hf : ∀ a ∈ o, ∀ b ∈ p, f a = f b → a = b) (h : o.map f = p.map f) : o = p := by
  cases o with
  | none => cases p <;> simp at h ⊢
  | some a =>
    cases p with
    | none => simp at h
    | some b => rw [hf a rfl b rfl (by simpa using h)]

lemma eq_of_stripColors_eq {a b : String} (ha : '§' ∉ a.toList) (hb : '§' ∉ b.toList)
    (h : stripColors a = stripColors b) : a = b := by
  rwa [stripColors_eq_self ha, stripColors_eq_self hb] at h

lemma eq_of_shownList_eq {l m : List String} (hls : ∀ s ∈ l, '§' ∉ s.toList)
    (hms : ∀ s ∈ m, '§' ∉ s.toList) (hlc : ∀ s ∈ l, ',' ∉ s.toList)
    (hmc : ∀ s ∈ m, ',' ∉ s.toList) (h : shownList l = shownList m) : l = m := by
  have plain {l : List String} (hls : ∀ s ∈ l, '§' ∉ s.toList) :
      stripColors (",".intercalate l) = ",".intercalate l := by
    apply stripColors_eq_self
    intro hs
    obtain hs | ⟨s, hs, hc⟩ := mem_intercalate hs
    · exact absurd hs (by decide)
    · exact hls s hs hc
  exact shownList_injective (plain hls) (plain hms) hlc hmc h

/-- Quotes around words overlap with themselves in the quote only. -/
lemma eq_nil_or_infix_of_overlap {c x y : List Char}
    (hc : "' with '".toList ++ x = c ++ ("' with '".toList ++ y)) :
    c = [] ∨ " with ".toList <:+: c := by
  have hs : "' with '".toList = '\'' :: " with ".toList ++ ['\''] := by decide
  by_cases hl : 7 ≤ c.length
  · have ht := congrArg (List.take 7) hc
    rw [List.take_append_of_le_length hl, List.take_append_of_le_length (by decide)] at ht
    refine .inr ⟨['\''], c.drop 7, ?_⟩
    calc ['\''] ++ " with ".toList ++ c.drop 7
        = c.take 7 ++ c.drop 7 := by rw [← ht, hs]; rfl
      _ = c := List.take_append_drop 7 c
  · -- a quote would stand within the words
    have hk := congrArg (·[c.length]?) hc
    simp only [List.getElem?_append_right (Nat.le_refl _), Nat.sub_self] at hk
    refine .inl (List.eq_nil_of_length_eq_zero ?_)
    generalize c.length = k at hk hl
    interval_cases k <;> simp at hk ⊢

/-- What is replaced ends at the first place where the words after it stand. -/
lemma append_with_injective {a b x y : List Char} (ha : ¬" with ".toList <:+: a)
    (hb : ¬" with ".toList <:+: b)
    (h : a ++ ("' with '".toList ++ x) = b ++ ("' with '".toList ++ y)) :
    a = b ∧ x = y := by
  obtain ⟨c, rfl, hc⟩ | ⟨c, rfl, hc⟩ := List.append_eq_append_iff.1 h
  · obtain rfl | hi := eq_nil_or_infix_of_overlap hc
    · exact ⟨(List.append_nil a).symm, List.append_cancel_left hc⟩
    · exact absurd (hi.trans (List.suffix_append a c).isInfix) hb
  · obtain rfl | hi := eq_nil_or_infix_of_overlap hc
    · exact ⟨List.append_nil b, (List.append_cancel_left hc).symm⟩
    · exact absurd (hi.trans (List.suffix_append b c).isInfix) ha

lemma eq_of_shownReplacement_eq {p q : String × String} (hp : '§' ∉ p.1.toList ∧ '§' ∉ p.2.toList)
    (hq : '§' ∉ q.1.toList ∧ '§' ∉ q.2.toList) (hpw : ¬" with ".toList <:+: p.1.toList)
    (hqw : ¬" with ".toList <:+: q.1.toList) (h : shownReplacement p = shownReplacement q) :
    p = q := by
  rw [shownReplacement, shownReplacement, stripColors_eq_self hp.1, stripColors_eq_self hp.2,
    stripColors_eq_self hq.1, stripColors_eq_self hq.2] at h
  have hl := congrArg String.toList h
  simp only [String.toList_append] at hl
  obtain ⟨h1, h2⟩ := append_with_injective hpw hqw hl
  exact Prod.ext (String.toList_injective h1) (String.toList_injective h2)

lemma map_stripColors_eq_self {o : Option String} (h : ∀ s ∈ o, '§' ∉ s.toList) :
    o.map stripColors = o := by
  cases o with
  | none => rfl
  | some s => rw [Option.map_some, stripColors_eq_self (h s rfl)]

lemma PacketRule.shown_eq_self {p : PacketRule} (h : p.Texts ('§' ∉ ·.toList)) : p.shown = p := by
  have hin : p.rewriteIn.map (fun e => (stripColors e.1, stripColors e.2)) = p.rewriteIn := by
    refine (List.map_congr_left fun e he => ?_).trans (List.map_id _)
    rw [stripColors_eq_self (h.rewriteIn e he).1, stripColors_eq_self (h.rewriteIn e he).2]
    rfl
  rw [shown, map_stripColors_eq_self h.replace, map_stripColors_eq_self h.rewrite, hin]

namespace Rule
variable {r s : Rule} {handlers : Registry}

/-- Plain rules with handlers that go by their names are alike only if they are equal. -/
theorem Alike.eq_of_plain (h : r.Alike s) (hr : r.Plain) (hs : s.Plain) (hrs : r.Shaped)
    (hss : s.Shaped) (hrh : ∀ k ∈ r.handler, handlers.find? k.name = some k)
    (hsh : ∀ k ∈ s.handler, handlers.find? k.name = some k) : r = s := by
  have text {o p : Option String} (ho : ∀ s ∈ o, '§' ∉ s.toList) (hp : ∀ s ∈ p, '§' ∉ s.toList)
      (h : o.map stripColors = p.map stripColors) : o = p := by
    rwa [map_stripColors_eq_self ho, map_stripColors_eq_self hp] at h
  have pattern := eq_of_stripColors_eq hr.texts.pattern hs.texts.pattern h.pattern
  have replaceBefore : r.replaceBefore = s.replaceBefore :=
    eq_of_map_eq (fun p hp q hq => eq_of_shownReplacement_eq (hr.texts.replaceBefore p hp)
      (hs.texts.replaceBefore q hq) (hrs.replaceBefore p hp) (hss.replaceBefore q hq)) h.replaceBefore
  have replacements := eq_of_shownList_eq
    hr.texts.replacements hs.texts.replacements hr.replacements hs.replacements h.replacements
  have rewrites := eq_of_shownList_eq
    hr.texts.rewrites hs.texts.rewrites hr.rewrites hs.rewrites h.rewrites
  have commands := eq_of_shownList_eq
    hr.texts.commands hs.texts.commands hr.commands hs.commands h.commands
  have notice : r.notice = s.notice :=
    eq_of_map_eq (fun n hn m hm he => by
      obtain ⟨h1, h2⟩ := Notice.mk.inj he
      exact congrArg₂ Notice.mk
        (eq_of_stripColors_eq (hr.texts.notice n hn).1 (hs.texts.notice m hm).1 h1)
        (eq_of_stripColors_eq (hr.texts.notice n hn).2 (hs.texts.notice m hm).2 h2)) h.notice
  have handler : r.handler = s.handler :=
    eq_of_map_eq (fun k hk m hm he => by
      have hn := eq_of_stripColors_eq (hr.texts.handler k hk) (hs.texts.handler m hm) he
      exact Option.some.inj ((hrh k hk).symm.trans (hn ▸ hsh m hm))) h.handler
  have packet : r.packet = s.packet :=
    eq_of_map_eq (fun p hp q hq he => by
      rwa [PacketRule.shown_eq_self (hr.texts.packet p hp),
        PacketRule.shown_eq_self (hs.texts.packet q hq)] at he) h.packet
  have id := text hr.texts.id hs.texts.id h.id
  have ignoredMessage := text hr.texts.ignoredMessage hs.texts.ignoredMessage h.ignoredMessage
  have bypass := text hr.texts.bypass hs.texts.bypass h.bypass
  have stripBefore := text hr.texts.stripBefore hs.texts.stripBefore h.stripBefore
  have warning := text hr.texts.warning hs.texts.warning h.warning
  have kick := text hr.texts.kick hs.texts.kick h.kick
  obtain ⟨-, -, -, -, ignoredEvent, ignoredModes, -, -, -, -, -, -, -, -, -, cancels, logs, fine, -⟩ := h
  cases r
  cases s
  simp only [mk.injEq]
  exact ⟨pattern, id, ignoredMessage, bypass, ignoredEvent, ignoredModes, stripBefore,
    replaceBefore, replacements, rewrites, commands, warning, notice, kick, handler, cancels, logs,
    fine, packet⟩

end Rule

/-! ### Files of blocks that build rules -/

section Files
variable {c : Category} {handlers : Registry} {source : String} {blocks : List Block}
  {rules : List Rule}

lemma Splits.texts (h : Splits (linesOf source) [] blocks)
    (hb : List.Forall₂ (Block.Builds c handlers) blocks rules) {x : Char}
    (hk : x ∉ defaultKick.toList) (hx : ∀ l ∈ linesOf source, x ∉ l.text.toList) :
    ∀ r ∈ rules, r.Texts (x ∉ ·.toList) := by
  intro r hr
  obtain ⟨b, hm, hbr⟩ := (Block.mem_of_forall₂_builds hb).1 hr
  exact hbr.texts hk (h.not_mem_pattern hx hm) (h.not_mem_body hx hm)

lemma Splits.written (h : Splits (linesOf source) [] blocks)
    (hb : List.Forall₂ (Block.Builds c handlers) blocks rules) : ∀ r ∈ rules, r.Written := by
  intro r hr
  obtain ⟨b, -, hbr⟩ := (Block.mem_of_forall₂_builds hb).1 hr
  exact ⟨h.texts hb (by decide) (fun l hl => newline_not_mem_line hl) r hr, hbr.shaped⟩

lemma Splits.plain (h : Splits (linesOf source) [] blocks)
    (hb : List.Forall₂ (Block.Builds c handlers) blocks rules) (hsign : '§' ∉ source.toList)
    (hcomma : ',' ∉ source.toList) : ∀ r ∈ rules, r.Plain := by
  intro r hr
  have texts := h.texts hb (by decide) (fun l hl => not_mem_line hsign hl) r hr
  have commas := h.texts hb (by decide) (fun l hl => not_mem_line hcomma hl) r hr
  exact ⟨texts, commas.replacements, commas.rewrites, commas.commands⟩

lemma Splits.alike_iff_eq (h : Splits (linesOf source) [] blocks)
    (hb : List.Forall₂ (Block.Builds c handlers) blocks rules) {r s : Rule} (hr : r ∈ rules)
    (hs : s ∈ rules) (hrp : r.Plain) (hsp : s.Plain) : r.Alike s ↔ r = s := by
  have handler : ∀ r ∈ rules, ∀ k ∈ r.handler, handlers.find? k.name = some k := fun r hr => by
    obtain ⟨b, -, hbr⟩ := (Block.mem_of_forall₂_builds hb).1 hr
    exact hbr.handler
  refine ⟨fun halike => ?_, fun heq => heq ▸ .refl r⟩
  exact halike.eq_of_plain hrp hsp (h.written hb r hr).shaped (h.written hb s hs).shaped
    (handler r hr) (handler s hs)

/-- If every block builds a rule, nothing but a duplicate can be refused. -/
lemma Block.foldlM_add_of_builds (hb : List.Forall₂ (Block.Builds c handlers) blocks rules)
    (done : List Rule) :
    blocks.foldlM (Block.add c handlers) done = .ok (done ++ rules) ∨
      ∃ place name, blocks.foldlM (Block.add c handlers) done = .error (.duplicateRule place name) := by
  induction hb generalizing done with
  | nil => exact .inl (by simp [pure, Except.pure])
  | @cons b r bs rs hbr _ ih =>
    rw [← Block.read_eq_ok_iff] at hbr
    rw [List.foldlM_cons]
    by_cases hd : ∃ x ∈ done, x.describe = r.describe
    · rw [Block.add_of_described hbr hd]
      exact .inr ⟨_, _, rfl⟩
    · rw [Block.add_of_not_described hbr fun x hx he => hd ⟨x, hx, he⟩]
      simpa [bind, Except.bind] using ih (done ++ [r])

lemma readRules_ok_or_duplicateRule (hs : Splits (linesOf source) [] blocks)
    (hb : List.Forall₂ (Block.Builds c handlers) blocks rules) :
    readRules c handlers source = .ok rules ∨
      ∃ place name, readRules c handlers source = .error (.duplicateRule place name) := by
  rw [readRules_eq, hs.eq_split]
  exact Block.foldlM_add_of_builds hb []

lemma readRules_eq_ok_iff_alike (hs : Splits (linesOf source) [] blocks)
    (hb : List.Forall₂ (Block.Builds c handlers) blocks rules) :
    readRules c handlers source = .ok rules ↔ rules.Pairwise fun r s : Rule => ¬r.Alike s := by
  have hw := hs.written hb
  have halike := List.Pairwise.iff_of_mem fun {r s} (hr : r ∈ rules) (hs : s ∈ rules) =>
    not_congr ((hw r hr).describe_eq_iff (hw s hs))
  rw [hs.readRules_eq_ok_iff, ← halike]
  simp [hb]

lemma not_pairwise_not_iff {α : Type} {R : α → α → Prop} {l : List α} :
    ¬l.Pairwise (fun a b => ¬R a b) ↔
      ∃ (i j : Nat) (a b : α), i < j ∧ l[i]? = some a ∧ l[j]? = some b ∧ R a b := by
  rw [List.pairwise_iff_getElem]
  push Not
  constructor
  · rintro ⟨i, j, hi, hj, hij, h⟩
    exact ⟨i, j, _, _, hij, List.getElem?_eq_getElem hi, List.getElem?_eq_getElem hj, h⟩
  · rintro ⟨i, j, a, b, hij, ha, hb, h⟩
    obtain ⟨hi, rfl⟩ := List.getElem?_eq_some_iff.1 ha
    obtain ⟨hj, rfl⟩ := List.getElem?_eq_some_iff.1 hb
    exact ⟨i, j, hi, hj, hij, h⟩

/-- In a file whose blocks all build rules a duplicate is refused exactly if two rules are alike, and
otherwise the rules are read in their order. Equal rules are alike, and plain rules are alike only if
they are equal; so in a file without section signs and commas exactly equal rules are refused. -/
theorem readRules_duplicateRule_iff (hs : Splits (linesOf source) [] blocks)
    (hb : List.Forall₂ (Block.Builds c handlers) blocks rules) :
    ((∃ place name, readRules c handlers source = .error (.duplicateRule place name)) ↔
      ∃ (i j : Nat) (r s : Rule), i < j ∧ rules[i]? = some r ∧ rules[j]? = some s ∧ r.Alike s) ∧
    (readRules c handlers source = .ok rules ↔ rules.Pairwise fun r s : Rule => ¬r.Alike s) ∧
    (∀ r : Rule, r.Alike r) ∧
    (∀ r ∈ rules, ∀ s ∈ rules, r.Plain → s.Plain → (r.Alike s ↔ r = s)) ∧
    ('§' ∉ source.toList → ',' ∉ source.toList →
      ((∃ place name, readRules c handlers source = .error (.duplicateRule place name)) ↔
        ¬rules.Nodup)) := by
  have hok := readRules_eq_ok_iff_alike hs hb
  have hdup : (∃ place name, readRules c handlers source = .error (.duplicateRule place name)) ↔
      ¬rules.Pairwise fun r s : Rule => ¬r.Alike s := by
    rw [← hok]
    refine ⟨?_, (readRules_ok_or_duplicateRule hs hb).resolve_left⟩
    rintro ⟨place, name, h⟩ h'
    cases h.symm.trans h'
  refine ⟨hdup.trans not_pairwise_not_iff, hok, Rule.Alike.refl,
    fun r hr s hs' => hs.alike_iff_eq hb hr hs', fun hsign hcomma => ?_⟩
  have hplain := hs.plain hb hsign hcomma
  rw [hdup, List.Nodup]
  refine not_congr (List.Pairwise.iff_of_mem fun hr hs' => not_congr ?_)
  exact hs.alike_iff_eq hb hr hs' (hplain _ hr) (hplain _ hs')

/-- Two rules that differ in a formatting code, with a rule between them that is like neither. -/
theorem readRules_duplicateRule_of_codes :
    let source := "match a\nthen warn §chi\n\nmatch b\n\nmatch a\nthen warn §ahi"
    let blocks : List Block := [⟨⟨1, "match a"⟩, "a", [⟨2, "then warn §chi"⟩]⟩,
      ⟨⟨4, "match b"⟩, "b", []⟩, ⟨⟨6, "match a"⟩, "a", [⟨7, "then warn §ahi"⟩]⟩]
    let rules : List Rule := [{ pattern := "a", warning := some "§chi" }, { pattern := "b" },
      { pattern := "a", warning := some "§ahi" }]
    Splits (linesOf source) [] blocks ∧ List.Forall₂ (Block.Builds .chat {}) blocks rules ∧
      ∃ place name, readRules .chat {} source = .error (.duplicateRule place name) := by
  intro source blocks rules
  have hs : Splits (linesOf source) [] blocks :=
    ⟨by decide +kernel, by simp, by decide +kernel, by decide +kernel⟩
  have hb : List.Forall₂ (Block.Builds .chat {}) blocks rules := by
    simp only [blocks, rules, List.forall₂_cons, List.Forall₂.nil, and_true, ← Block.read_eq_ok_iff]
    decide +kernel
  have halike : Rule.Alike { pattern := "a", warning := some "§chi" }
      { pattern := "a", warning := some "§ahi" } := by
    constructor <;> decide +kernel
  exact ⟨hs, hb, (readRules_duplicateRule_iff hs hb).1.2 ⟨0, 2, _, _, by decide, rfl, rfl, halike⟩⟩

/-- An alternative with a comma and two alternatives are different things to put in, and the second
rule is refused as a duplicate of the first. -/
theorem readRules_duplicateRule_of_comma :
    let source := "match x\nthen replace a,b\n\nmatch x\nthen replace a|b"
    let blocks : List Block := [⟨⟨1, "match x"⟩, "x", [⟨2, "then replace a,b"⟩]⟩,
      ⟨⟨4, "match x"⟩, "x", [⟨5, "then replace a|b"⟩]⟩]
    let r : Rule := { pattern := "x", replacements := ["a,b"] }
    let s : Rule := { pattern := "x", replacements := ["a", "b"] }
    Splits (linesOf source) [] blocks ∧ List.Forall₂ (Block.Builds .chat {}) blocks [r, s] ∧ r ≠ s ∧
      readRules .chat {} source =
        .error (.duplicateRule ⟨"chat.txt", 4⟩ "Rule \x7bMatch='x'\x7d") := by
  intro source blocks r s
  refine ⟨⟨by decide +kernel, by simp, by decide +kernel, by decide +kernel⟩, ?_, by decide,
    by decide +kernel⟩
  simp only [blocks, r, s, List.forall₂_cons, List.Forall₂.nil, and_true, ← Block.read_eq_ok_iff]
  decide +kernel

end Files

end Moderation
