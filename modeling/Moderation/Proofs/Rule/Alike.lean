import Moderation.Proofs.Rule.Description
import Moderation.Proofs.Rule.Texts

/-!
Rules that look alike. A description shows no formatting codes, shows a list as its members with
commas between them, and shows a handler by its name; two rules of which it shows the same are alike.
-/
namespace Moderation
open Moderation.Text

/-- A list of texts as a description shows it, unless it is empty. -/
def shownList (items : List String) : Option String :=
  if items = [] then none else some (stripColors (",".intercalate items))

/-- A pattern and its replacement as a description shows them. -/
def shownReplacement (p : String × String) : String :=
  stripColors p.1 ++ ("' with '" ++ stripColors p.2)

/-- A notice without formatting codes. -/
def Notice.shown (n : Notice) : Notice := ⟨stripColors n.permission, stripColors n.message⟩

/-- What a rule does to outgoing texts, without formatting codes. -/
def PacketRule.shown (p : PacketRule) : PacketRule :=
  { p with
    replace := p.replace.map stripColors
    rewrite := p.rewrite.map stripColors
    rewriteIn := p.rewriteIn.map fun e => (stripColors e.1, stripColors e.2) }

/-- Rules of which a description shows the same. -/
structure Rule.Alike (r s : Rule) : Prop where
  pattern : stripColors r.pattern = stripColors s.pattern
  id : r.id.map stripColors = s.id.map stripColors
  ignoredMessage : r.ignoredMessage.map stripColors = s.ignoredMessage.map stripColors
  bypass : r.bypass.map stripColors = s.bypass.map stripColors
  ignoredEvent : r.ignoredEvent = s.ignoredEvent
  ignoredModes : r.ignoredModes = s.ignoredModes
  stripBefore : r.stripBefore.map stripColors = s.stripBefore.map stripColors
  replaceBefore : r.replaceBefore.map shownReplacement = s.replaceBefore.map shownReplacement
  replacements : shownList r.replacements = shownList s.replacements
  rewrites : shownList r.rewrites = shownList s.rewrites
  commands : shownList r.commands = shownList s.commands
  warning : r.warning.map stripColors = s.warning.map stripColors
  notice : r.notice.map Notice.shown = s.notice.map Notice.shown
  kick : r.kick.map stripColors = s.kick.map stripColors
  handler : r.handler.map (stripColors ·.name) = s.handler.map (stripColors ·.name)
  cancels : r.cancels = s.cancels
  logs : r.logs = s.logs
  fine : r.fine = s.fine
  packet : r.packet.map PacketRule.shown = s.packet.map PacketRule.shown

/-- Equal rules are alike. -/
theorem Rule.Alike.refl (r : Rule) : r.Alike r := by
  constructor <;> rfl

/-! ### Contents of lines -/

section Contents
variable {α β : Type} {f : α → String} {g : α → β}

lemma shownLines_eq_iff {l m : List α}
    (h : ∀ a ∈ l, ∀ b ∈ m, stripColors (f a) = stripColors (f b) ↔ g a = g b) :
    (l.map f).map stripColors = (m.map f).map stripColors ↔ l.map g = m.map g := by
  induction l generalizing m with
  | nil => cases m <;> simp
  | cons a l ih =>
    cases m with
    | nil => simp
    | cons b m =>
      have htail := ih fun a ha b hb => h a (List.mem_cons_of_mem _ ha) b (List.mem_cons_of_mem _ hb)
      simp only [List.map_cons, List.cons.injEq] at htail ⊢
      rw [h a List.mem_cons_self b List.mem_cons_self, htail]

lemma shownLine_eq_iff {o p : Option α}
    (h : ∀ a ∈ o, ∀ b ∈ p, stripColors (f a) = stripColors (f b) ↔ g a = g b) :
    (o.toList.map f).map stripColors = (p.toList.map f).map stripColors ↔ o.map g = p.map g := by
  rw [shownLines_eq_iff (by simpa using h)]
  cases o <;> cases p <;> simp

lemma stripColors_quoted (s : String) : stripColors (s ++ "'") = stripColors s ++ "'" :=
  stripColors_append (by decide) s

lemma quoted_eq_iff (a b : String) :
    stripColors (a ++ "'") = stripColors (b ++ "'") ↔ stripColors a = stripColors b := by
  rw [stripColors_quoted, stripColors_quoted, String.append_left_inj]

lemma quoted_option_eq_iff (o p : Option String) :
    (o.toList.map (· ++ "'")).map stripColors = (p.toList.map (· ++ "'")).map stripColors ↔
      o.map stripColors = p.map stripColors :=
  shownLine_eq_iff fun a _ b _ => quoted_eq_iff a b

lemma stripColors_around {sep : String} (hc : sep.toList.head?.any isStrippedCode = false)
    (hs : '§' ∉ sep.toList) (hn : sep ≠ "") (a b : String) :
    stripColors (a ++ (sep ++ (b ++ "'"))) = stripColors a ++ (sep ++ stripColors b) ++ "'" := by
  have hhead : (sep ++ (b ++ "'")).toList.head? = sep.toList.head? := by
    have hl : sep.toList ≠ [] := by simpa using hn
    rw [String.toList_append, List.head?_append_of_ne_nil _ hl]
  rw [stripColors_append (by rw [hhead]; exact hc), stripColors_label hs, stripColors_quoted]
  simp only [String.append_assoc]

/-- Two words and texts around a separator are told apart by the first space. -/
lemma around_injective {s t : String} {c : Char} (hs : s.toList = c :: ' ' :: t.toList)
    (hc : c ≠ ' ') {a b x y : String} (ha : ' ' ∉ a.toList) (hb : ' ' ∉ b.toList)
    (h : a ++ (s ++ x) = b ++ (s ++ y)) : a = b ∧ x = y := by
  have hl : (a.toList ++ [c]) ++ ' ' :: (t ++ x).toList =
      (b.toList ++ [c]) ++ ' ' :: (t ++ y).toList := by
    simpa [hs] using congrArg String.toList h
  have ha' : ' ' ∉ a.toList ++ [c] := by simp [ha, hc.symm]
  have hb' : ' ' ∉ b.toList ++ [c] := by simp [hb, hc.symm]
  have hcut := (cut_eq_some_iff.2 ⟨rfl, ha'⟩).symm.trans (hl ▸ cut_eq_some_iff.2 ⟨rfl, hb'⟩)
  obtain ⟨hab, hxy⟩ := Prod.mk.inj (Option.some.inj hcut)
  have hxy := String.toList_injective hxy
  exact ⟨String.toList_injective (List.append_cancel_right hab), (String.append_right_inj _).1 hxy⟩

lemma stripColors_noSpace {s : String} (h : ' ' ∉ s.toList) : ' ' ∉ (stripColors s).toList :=
  fun hm => h (mem_of_mem_stripColors hm)

lemma joined_eq_iff (l m : List String) :
    (joined l).map stripColors = (joined m).map stripColors ↔ shownList l = shownList m := by
  have h (l : List String) : (joined l).map stripColors = (shownList l).toList.map (· ++ "'") := by
    by_cases hl : l = [] <;> simp [joined, hl, shownList, stripColors_quoted]
  rw [h, h]
  cases shownList l <;> cases shownList m <;> simp

lemma intercalate_injective {l m : List String} (hl : l ≠ []) (hm : m ≠ [])
    (hcl : ∀ s ∈ l, ',' ∉ s.toList) (hcm : ∀ s ∈ m, ',' ∉ s.toList)
    (h : ",".intercalate l = ",".intercalate m) : l = m := by
  have hsep : ",".toList = [','] := rfl
  rw [← parts_intercalate hsep hl hcl, h, parts_intercalate hsep hm hcm]

/-- Lists without formatting codes and commas can be told apart. -/
lemma shownList_injective {l m : List String} (hl : stripColors (",".intercalate l) = ",".intercalate l)
    (hm : stripColors (",".intercalate m) = ",".intercalate m) (hcl : ∀ s ∈ l, ',' ∉ s.toList)
    (hcm : ∀ s ∈ m, ',' ∉ s.toList) (h : shownList l = shownList m) : l = m := by
  by_cases hln : l = [] <;> by_cases hmn : m = [] <;> simp [shownList, hln, hmn] at h
  · rw [hln, hmn]
  · exact intercalate_injective hln hmn hcl hcm (by rwa [hl, hm] at h)

lemma shownList_modes_injective {ms ns : List GameMode}
    (h : shownList (ms.map (·.title)) = shownList (ns.map (·.title))) : ms = ns := by
  have title (c : Char) (hc : c = ',' ∨ c = '§') (ks : List GameMode) :
      ∀ s ∈ ks.map (·.title), c ∉ s.toList := by
    intro s hs
    obtain ⟨k, -, rfl⟩ := List.mem_map.1 hs
    obtain rfl | rfl := hc <;> cases k <;> decide
  have plain (ks : List GameMode) :
      stripColors (",".intercalate (ks.map (·.title))) = ",".intercalate (ks.map (·.title)) := by
    apply stripColors_eq_self
    intro hs
    obtain hs | ⟨s, hs, hc⟩ := mem_intercalate hs
    · exact absurd hs (by decide)
    · exact title '§' (.inr rfl) ks s hs hc
  have ht := shownList_injective (plain ms) (plain ns) (title ',' (.inl rfl) ms)
    (title ',' (.inl rfl) ns) h
  refine List.map_injective_iff.2 (fun a b hab => ?_) ht
  cases a <;> cases b <;> first | rfl | exact absurd hab (by decide)

end Contents

/-! ### Rules as they are written -/

/-- What is known of rules that were written: their texts stay on their lines, and they have the shape
of written rules. -/
structure Rule.Written (r : Rule) : Prop where
  texts : r.Texts OneLine
  shaped : r.Shaped

namespace Binary64

lemma oneLine_toText (x : Binary64) : OneLine x.toText := fun h => by
  obtain h | h := mem_toText h
  · cases h
  · revert h
    decide

lemma stripColors_toText (x : Binary64) : stripColors x.toText = x.toText :=
  stripColors_eq_self fun h => by
    obtain h | h := mem_toText h
    · cases h
    · revert h
      decide

end Binary64

/-! ### Lines of descriptions -/

instance : DecidablePred OneLine := fun s => inferInstanceAs (Decidable ('\n' ∉ s.toList))

lemma oneLine_append {a b : String} (ha : OneLine a) (hb : OneLine b) : OneLine (a ++ b) := by
  intro h
  rw [String.toList_append] at h
  exact (List.mem_append.1 h).elim ha hb

lemma oneLine_joined {l : List String} (h : ∀ s ∈ l, OneLine s) : ∀ s ∈ joined l, OneLine s := by
  intro s hs
  unfold joined at hs
  split at hs
  · cases hs
  · rw [List.mem_singleton.1 hs]
    refine oneLine_append (fun hn => ?_) (by decide)
    obtain hn | ⟨t, ht, hn⟩ := mem_intercalate hn
    · exact absurd hn (by decide)
    · exact h t ht hn

lemma oneLine_option {α : Type} {o : Option α} {f : α → String} (h : ∀ a ∈ o, OneLine (f a)) :
    ∀ s ∈ o.toList.map f, OneLine s := by
  cases o with
  | none => simp
  | some a => simpa using h

lemma oneLine_quoted {o : Option String} (h : ∀ s ∈ o, OneLine s) :
    ∀ s ∈ o.toList.map (· ++ "'"), OneLine s :=
  oneLine_option fun s hs => oneLine_append (h s hs) (by decide)

lemma oneLine_around {a sep b : String} (hs : OneLine sep) (ha : OneLine a) (hb : OneLine b) :
    OneLine (a ++ (sep ++ (b ++ "'"))) :=
  oneLine_append ha (oneLine_append hs (oneLine_append hb (by decide)))

lemma oneLine_flagged (b : Bool) : ∀ s ∈ flagged b, OneLine s := by
  cases b with
  | false => simp [flagged]
  | true =>
    simp only [flagged, if_true, List.forall_mem_singleton]
    decide

namespace Rule
variable {r s : Rule}

lemma oneLine_standardFields (h : r.Texts OneLine) :
    ∀ f ∈ r.standardFields, ∀ c ∈ f.2, OneLine c := by
  simp only [standardFields, List.forall_mem_cons]
  refine ⟨by simpa using h.id, ⟨oneLine_append h.pattern (by decide), by simp⟩,
    oneLine_quoted h.stripBefore, ?_, oneLine_quoted h.bypass, oneLine_quoted h.ignoredMessage, ?_,
    ?_, oneLine_joined h.replacements, oneLine_joined h.rewrites, oneLine_joined h.commands, ?_,
    oneLine_quoted h.warning, ?_, oneLine_quoted h.kick,
    oneLine_option fun x _ => x.oneLine_toText, oneLine_flagged _, oneLine_flagged _, by simp⟩
  · exact oneLine_option fun p hp =>
      oneLine_around (by decide) (h.replaceBefore p hp).1 (h.replaceBefore p hp).2
  · exact oneLine_option fun k _ => by cases k <;> decide
  · refine oneLine_joined fun s hs => ?_
    obtain ⟨m, -, rfl⟩ := List.mem_map.1 hs
    cases m <;> decide
  · exact oneLine_option fun k hk => oneLine_append (h.handler k hk) (by decide)
  · exact oneLine_option fun n hn =>
      oneLine_around (by decide) (h.notice n hn).1 (h.notice n hn).2

lemma oneLine_packetFields {p : PacketRule} (h : p.Texts OneLine) :
    ∀ f ∈ p.fields, ∀ c ∈ f.2, OneLine c := by
  simp only [PacketRule.fields, List.forall_mem_cons]
  refine ⟨oneLine_quoted h.replace, oneLine_quoted h.rewrite, fun s hs => ?_, oneLine_flagged _,
    ⟨?_, by simp⟩, by simp⟩
  · obtain ⟨e, he, rfl⟩ := List.mem_map.1 hs
    exact oneLine_around (by decide) (h.rewriteIn e he).1 (h.rewriteIn e he).2
  · cases p.denies <;> decide

/-- A description has one line for each label if no text goes over a line end. -/
theorem Texts.oneLine (h : r.Texts OneLine) : ∀ w ∈ labelled r.fields, OneLine w := by
  have hlabel : ∀ l ∈ r.fields.map (·.1), OneLine l := by
    cases hp : r.isPacketRule with
    | false =>
      rw [labels_eq (s := { pattern := "" }) hp]
      decide +kernel
    | true =>
      rw [labels_eq (s := { pattern := "", packet := some {} }) hp]
      decide +kernel
  have hcontent : ∀ f ∈ r.fields, ∀ c ∈ f.2, OneLine c := by
    unfold fields
    split
    · rename_i p hp
      refine List.forall_mem_cons.2 ⟨?_, oneLine_packetFields (h.packet p hp)⟩
      simpa using oneLine_append h.pattern (by decide)
    · exact oneLine_standardFields h
  intro w hw
  obtain ⟨f, hf, hw⟩ := List.mem_flatMap.1 hw
  obtain ⟨c, hc, rfl⟩ := List.mem_map.1 hw
  exact oneLine_append (hlabel f.1 (List.mem_map_of_mem hf)) (hcontent f hf c hc)

/-! ### What lines show -/

lemma flagged_eq_iff (a b : Bool) :
    (flagged a).map stripColors = (flagged b).map stripColors ↔ a = b := by
  cases a <;> cases b <;> simp [flagged]

lemma replaceBefore_eq_iff (o p : Option (String × String)) :
    (o.toList.map fun q => q.1 ++ ("' with '" ++ (q.2 ++ "'"))).map stripColors =
      (p.toList.map fun q => q.1 ++ ("' with '" ++ (q.2 ++ "'"))).map stripColors ↔
      o.map shownReplacement = p.map shownReplacement := by
  refine shownLine_eq_iff fun a _ b _ => ?_
  rw [stripColors_around (by decide) (by decide) (by decide),
    stripColors_around (by decide) (by decide) (by decide), String.append_left_inj]
  rfl

lemma notice_eq_iff {o p : Option Notice} (ho : ∀ n ∈ o, ' ' ∉ n.permission.toList)
    (hp : ∀ n ∈ p, ' ' ∉ n.permission.toList) :
    (o.toList.map fun n => n.permission ++ ("' with '" ++ (n.message ++ "'"))).map stripColors =
      (p.toList.map fun n => n.permission ++ ("' with '" ++ (n.message ++ "'"))).map stripColors ↔
      o.map Notice.shown = p.map Notice.shown := by
  refine shownLine_eq_iff fun a ha b hb => ?_
  rw [stripColors_around (by decide) (by decide) (by decide),
    stripColors_around (by decide) (by decide) (by decide), String.append_left_inj]
  constructor
  · intro h
    obtain ⟨h1, h2⟩ := around_injective (t := "with '") (c := '\'') (by decide) (by decide)
      (stripColors_noSpace (ho a ha)) (stripColors_noSpace (hp b hb)) h
    rw [Notice.shown, Notice.shown, h1, h2]
  · intro h
    obtain ⟨h1, h2⟩ := Notice.mk.inj h
    rw [h1, h2]

lemma rewriteIn_eq_iff {l m : List (String × String)} (hl : ∀ e ∈ l, ' ' ∉ e.1.toList)
    (hm : ∀ e ∈ m, ' ' ∉ e.1.toList) :
    (l.map fun e => e.1 ++ (": '" ++ (e.2 ++ "'"))).map stripColors =
      (m.map fun e => e.1 ++ (": '" ++ (e.2 ++ "'"))).map stripColors ↔
      (l.map fun e => (stripColors e.1, stripColors e.2)) =
        m.map fun e => (stripColors e.1, stripColors e.2) := by
  refine shownLines_eq_iff fun a ha b hb => ?_
  rw [stripColors_around (by decide) (by decide) (by decide),
    stripColors_around (by decide) (by decide) (by decide), String.append_left_inj]
  constructor
  · intro h
    obtain ⟨h1, h2⟩ := around_injective (t := "'") (c := ':') (by decide) (by decide)
      (stripColors_noSpace (hl a ha)) (stripColors_noSpace (hm b hb)) h
    rw [h1, h2]
  · intro h
    obtain ⟨h1, h2⟩ := Prod.mk.inj h
    rw [h1, h2]

lemma shownList_modes_eq_iff (ms ns : List GameMode) :
    shownList (ms.map (·.title)) = shownList (ns.map (·.title)) ↔ ms = ns :=
  ⟨shownList_modes_injective, fun h => by rw [h]⟩

lemma event_eq_iff (o p : Option EventKind) :
    (o.toList.map (·.title ++ "'")).map stripColors =
      (p.toList.map (·.title ++ "'")).map stripColors ↔ o = p := by
  have h := shownLine_eq_iff (o := o) (p := p) (f := fun k => k.title ++ "'") (g := fun k => k)
    fun a _ b _ => by
      rw [quoted_eq_iff]
      cases a <;> cases b <;> decide
  simpa using h

lemma fine_eq_iff {o p : Option Binary64} (ho : ∀ x ∈ o, x.Kept) (hp : ∀ x ∈ p, x.Kept) :
    (o.toList.map (·.toText)).map stripColors = (p.toList.map (·.toText)).map stripColors ↔
      o = p := by
  have h := shownLine_eq_iff (o := o) (p := p) (f := (·.toText)) (g := fun x => x)
    fun a ha b hb => by
      rw [a.stripColors_toText, b.stripColors_toText]
      exact ⟨Binary64.toText_injective (ho a ha) (hp b hb), fun h => h ▸ rfl⟩
  simpa using h

/-! ### Descriptions -/

lemma id_eq_iff (o p : Option String) :
    o.toList.map stripColors = p.toList.map stripColors ↔ o.map stripColors = p.map stripColors := by
  have h := shownLine_eq_iff (o := o) (p := p) (f := fun s => s) (g := stripColors)
    fun a _ b _ => Iff.rfl
  simpa using h

lemma handler_eq_iff (o p : Option Handler) :
    (o.toList.map (·.name ++ "'")).map stripColors =
      (p.toList.map (·.name ++ "'")).map stripColors ↔
      o.map (stripColors ·.name) = p.map (stripColors ·.name) :=
  shownLine_eq_iff fun a _ b _ => quoted_eq_iff a.name b.name

/-- Two rules for the texts of players show the same behind each label exactly if they are alike. -/
lemma standardFields_eq_iff (hr : r.Shaped) (hs : s.Shaped) (hp : r.packet = none)
    (hq : s.packet = none) :
    strippedFields r.standardFields = strippedFields s.standardFields ↔ r.Alike s := by
  have notice := notice_eq_iff hr.notice hs.notice
  have fine := fine_eq_iff hr.fine hs.fine
  simp only [strippedFields, standardFields, List.map_cons, List.map_nil, List.cons.injEq,
    Prod.mk.injEq, true_and, and_true, id_eq_iff, quoted_eq_iff, quoted_option_eq_iff,
    replaceBefore_eq_iff, event_eq_iff, joined_eq_iff, shownList_modes_eq_iff, handler_eq_iff, notice,
    fine, flagged_eq_iff]
  constructor
  · rintro ⟨id, pattern, stripBefore, replaceBefore, bypass, ignoredMessage, ignoredEvent,
      ignoredModes, replacements, rewrites, commands, handler, warning, notice, kick, fine, cancels,
      logs⟩
    exact { id, pattern, stripBefore, replaceBefore, bypass, ignoredMessage, ignoredEvent,
            ignoredModes, replacements, rewrites, commands, handler, warning, notice, kick, fine,
            cancels, logs, packet := by rw [hp, hq] }
  · intro h
    exact ⟨h.id, h.pattern, h.stripBefore, h.replaceBefore, h.bypass, h.ignoredMessage,
      h.ignoredEvent, h.ignoredModes, h.replacements, h.rewrites, h.commands, h.handler, h.warning,
      h.notice, h.kick, h.fine, h.cancels, h.logs⟩

lemma packetFields_eq_iff {p q : PacketRule} (hp : ∀ e ∈ p.rewriteIn, ' ' ∉ e.1.toList)
    (hq : ∀ e ∈ q.rewriteIn, ' ' ∉ e.1.toList) :
    strippedFields p.fields = strippedFields q.fields ↔ p.shown = q.shown := by
  have rewriteIn := rewriteIn_eq_iff hp hq
  have denies : stripColors (if p.denies then "true" else "false") =
      stripColors (if q.denies then "true" else "false") ↔ p.denies = q.denies := by
    cases p.denies <;> cases q.denies <;> decide
  simp only [strippedFields, PacketRule.fields, List.map_cons, List.map_nil, List.cons.injEq,
    Prod.mk.injEq, true_and, and_true, quoted_option_eq_iff, rewriteIn, flagged_eq_iff, denies,
    PacketRule.shown, PacketRule.mk.injEq]
  constructor
  · rintro ⟨hreplace, hrewrite, hin, hquiet, hdenies⟩
    exact ⟨hdenies, hreplace, hrewrite, hin, hquiet⟩
  · rintro ⟨hdenies, hreplace, hrewrite, hin, hquiet⟩
    exact ⟨hreplace, hrewrite, hin, hquiet, hdenies⟩

lemma packetRules_alike_iff {a b : String} {p q : PacketRule} :
    Alike { pattern := a, packet := some p } { pattern := b, packet := some q } ↔
      stripColors a = stripColors b ∧ p.shown = q.shown := by
  constructor
  · intro h
    exact ⟨h.pattern, Option.some.inj h.packet⟩
  · rintro ⟨pattern, shown⟩
    constructor <;> first | exact pattern | exact congrArg some shown | rfl

/-- Rules that were written have one description exactly if they are alike. -/
theorem Written.describe_eq_iff (hr : r.Written) (hs : s.Written) :
    r.describe = s.describe ↔ r.Alike s := by
  rw [describe_eq_iff_fields hr.texts.oneLine hs.texts.oneLine]
  cases hp : r.packet with
  | none =>
    cases hq : s.packet with
    | none =>
      rw [← standardFields_eq_iff hr.shaped hs.shaped hp hq]
      simp [fields, isPacketRule, hp, hq]
    | some q =>
      refine ⟨fun h => ?_, fun h => ?_⟩
      · simp [isPacketRule, hp, hq] at h
      · have := h.packet
        simp [hp, hq] at this
  | some p =>
    cases hq : s.packet with
    | none =>
      refine ⟨fun h => ?_, fun h => ?_⟩
      · simp [isPacketRule, hp, hq] at h
      · have := h.packet
        simp [hp, hq] at this
    | some q =>
      have hf := packetFields_eq_iff (hr.shaped.rewriteIn p hp) (hs.shaped.rewriteIn q hq)
      rw [hr.shaped.packet p hp, hs.shaped.packet q hq, packetRules_alike_iff]
      simp only [fields, isPacketRule, Option.isSome_some, true_and, strippedFields, List.map_cons,
        List.map_nil, List.cons.injEq, Prod.mk.injEq, and_true, quoted_eq_iff] at hf ⊢
      exact and_congr_right' hf

end Rule

end Moderation
