import Moderation.Proofs.Handler.Registry
import Moderation.Proofs.Rule.Description
import Moderation.Proofs.Rule.Texts

/-!
What holds of every rule that is read, whatever the file says. Each condition is checked where a line
is read as a directive, and kept by the directives after it.
-/
namespace Moderation
open Moderation.Text

/-- Whether a line consists of words and an argument. -/
def Line.Begins (l : Line) (words : String) : Prop := ∃ arg, l.text = words ++ arg

/-- A rule that a block of the rules of a category may build. Lists are given exactly if their
directive is written, and a handler is the one of the name that is written. -/
structure Rule.WellFormed (c : Category) (handlers : Registry) (b : Block) (r : Rule) : Prop where
  pattern : r.pattern ≠ ""
  oneLine : r.Texts OneLine
  isPacketRule : r.isPacketRule = true ↔ c = .packet
  alone : ∀ p ∈ r.packet, r = { pattern := r.pattern, packet := some p }
  ignoredEvent : ∀ kind ∈ r.ignoredEvent, c.eventKind? ≠ some kind
  fine : ∀ x ∈ r.fine, x.isFiniteNonNegative = true
  handlerFine : ∀ h ∈ r.handler, ∀ x ∈ h.fine, x.isFiniteNonNegative = true
  notice : ∀ n ∈ r.notice, n.permission ≠ "" ∧ n.message ≠ ""
  kick : ∀ s ∈ r.kick, s ≠ ""
  replacements : r.replacements ≠ [] ↔
    c ≠ .packet ∧ ∃ l ∈ b.body, l.text = "then replace" ∨ l.Begins "then replace "
  rewrites : r.rewrites ≠ [] ↔ c ≠ .packet ∧ ∃ l ∈ b.body, l.Begins "then rewrite "
  commands : r.commands ≠ [] ↔ c ≠ .packet ∧ ∃ l ∈ b.body, l.Begins "then console "
  ignoredModes : r.ignoredModes ≠ [] ↔
    c ≠ .packet ∧ ∃ l ∈ b.body, l.Begins "ignore gamemode "
  handler : ∀ h ∈ r.handler, ∃ name, handlers.find? name = some h ∧
    (∃ l ∈ b.body, l.text = "handle as " ++ name) ∧
    ∀ l ∈ b.body, ∀ other, l.text = "handle as " ++ other → other = name

/-! ### What is checked -/

/-- What is checked of a directive when it is read. -/
def Directive.Checked (c : Category) : Directive → Prop
  | .ignoreEvent kind => c.eventKind? ≠ some kind
  | .fine x => x.isFiniteNonNegative = true
  | .notify permission message => permission ≠ "" ∧ message ≠ ""
  | _ => True

/-- What the checks of directives come to for a rule. -/
structure Rule.Checked (c : Category) (r : Rule) : Prop where
  ignoredEvent : ∀ kind ∈ r.ignoredEvent, c.eventKind? ≠ some kind
  fine : ∀ x ∈ r.fine, x.isFiniteNonNegative = true
  notice : ∀ n ∈ r.notice, n.permission ≠ "" ∧ n.message ≠ ""
  kick : ∀ s ∈ r.kick, s ≠ ""

section Checks
variable {c : Category} {handlers : Registry} {text : String} {d : Directive} {b : Block} {r : Rule}

lemma Draft.checked_set {r : Draft} (hr : r.build.Checked c) (hd : d.Checked c) :
    (r.set d).build.Checked c := by
  cases d with
  | ignoreEvent kind =>
    exact { hr with ignoredEvent := by simpa [set, build, Directive.Checked] using hd }
  | fine x => exact { hr with fine := by simpa [set, build, Directive.Checked] using hd }
  | notify permission message =>
    exact { hr with notice := by simpa [set, build, Directive.Checked] using hd }
  | kick message =>
    refine { hr with kick := fun s hs => ?_ }
    obtain rfl := Option.some.inj hs
    split
    · decide
    · assumption
  | _ => exact { hr with }

lemma checked_of_form (h : c.Form handlers text d) : d.Checked c := by
  rw [Category.Form] at h
  split at h
  · cases h <;> trivial
  · cases h with
    | ignoreEvent _ other => exact other
    | fine _ nonNegative => exact nonNegative
    | notify _ givenPermission givenMessage => exact ⟨givenPermission, givenMessage⟩
    | _ => trivial

theorem Block.Builds.checked (h : b.Builds c handlers r) : r.Checked c := by
  refine h.invariant (Rule.Checked c) ?_ fun l _ d hd s _ hs => Draft.checked_set hs (checked_of_form hd)
  rw [Draft.opened]
  split <;> constructor <;> simp [Draft.build, Draft.forPackets]

theorem Block.Builds.pattern (h : b.Builds c handlers r) : r.pattern = b.pattern :=
  h.invariant (·.pattern = b.pattern) (Draft.pattern_opened c b.pattern)
    fun _ _ d _ s _ hs => (Draft.pattern_set s d).trans hs

theorem Block.Builds.isPacketRule (h : b.Builds c handlers r) :
    r.isPacketRule = decide (c = .packet) := by
  obtain ⟨ds, ⟨hf, -⟩, rfl⟩ := h
  exact isPacketRule_foldl_set (Draft.isPacketRule_opened c b.pattern) hf

end Checks

/-! ### What is written -/

section Written
variable {c : Category} {handlers : Registry} {text words arg : String} {d d' : Directive}
  {read : String → Except Refusal Directive} {b : Block} {r : Rule} {ds : List Directive}

theorem form_unique (h : c.Form handlers text d) (h' : c.Form handlers text d') : d = d' :=
  Except.ok.inj ((read_eq_ok_iff.2 h).symm.trans (read_eq_ok_iff.2 h'))

lemma read_of_form (hm : (words, read) ∈ Directive.withArgument c handlers) (hc : c ≠ .packet)
    (h : c.Form handlers (words ++ arg) d) : read arg = .ok d := by
  have hu := Directive.unambiguous_withArgument c handlers
  rw [Category.Form, if_neg hc, ← Directive.ofText_eq_ok_iff] at h
  rcases (Directive.readTable_eq_ok_iff hu).1 h with hb | harg
  · have hnone := hu.bare_apart _ (List.mem_map_of_mem hb) words (List.mem_map_of_mem hm)
    cases hnone.symm.trans (after_eq_some_iff.2 rfl)
  · rw [← Directive.readAfter_eq_ok_iff hu.apart, Directive.readAfter_append hu.apart hm] at harg
    exact harg

lemma exists_of_form_handle {k : Handler} (h : c.Form handlers text (.handle k)) :
    c ≠ .packet ∧ ∃ name, handlers.find? name = some k ∧ text = "handle as " ++ name := by
  rw [Category.Form] at h
  split at h
  · cases h
  · rename_i hc
    cases h with
    | handle known => exact ⟨hc, _, known, rfl⟩

lemma mem_fields_iff {ls : List Line} {ds : List Directive} {f : Field}
    (h : List.Forall₂ (fun l d => c.Form handlers l.text d) ls ds) :
    f ∈ ds.map (·.field) ↔ ∃ l ∈ ls, ∃ d, c.Form handlers l.text d ∧ d.field = f := by
  induction h with
  | nil => simp
  | @cons l d ls ds hd _ ih =>
    have hl : (∃ d', c.Form handlers l.text d' ∧ d'.field = f) ↔ f = d.field :=
      ⟨fun ⟨_, hd', hf⟩ => hf ▸ congrArg _ (form_unique hd' hd), fun hf => ⟨d, hd, hf.symm⟩⟩
    simp only [List.map_cons, List.mem_cons, ih, exists_eq_or_imp, hl]

lemma exists_form {ls : List Line} {ds : List Directive} {l : Line}
    (h : List.Forall₂ (fun l d => c.Form handlers l.text d) ls ds) (hl : l ∈ ls) :
    ∃ d, c.Form handlers l.text d := by
  obtain ⟨i, hi, rfl⟩ := List.getElem_of_mem hl
  exact ⟨_, h.get hi (h.length_eq ▸ hi)⟩

lemma Category.Reads.eq_of_field_eq {ls : List Line} {ds : List Directive} {l l' : Line}
    (h : c.Reads handlers ls ds) (hl : l ∈ ls) (hl' : l' ∈ ls) (hd : c.Form handlers l.text d)
    (hd' : c.Form handlers l'.text d') (hf : d.field = d'.field) : l = l' := by
  obtain ⟨hforms, hn⟩ := h
  induction hforms with
  | nil => cases hl
  | @cons k e ls ds hk hforms ih =>
    obtain ⟨hfresh, hn⟩ := List.nodup_cons.1 hn
    rw [mem_fields_iff hforms] at hfresh
    rcases List.mem_cons.1 hl with rfl | hlt <;> rcases List.mem_cons.1 hl' with rfl | hlt'
    · rfl
    · exact absurd ⟨l', hlt', d', hd', hf ▸ congrArg _ (form_unique hd hk)⟩ hfresh
    · exact absurd ⟨l, hlt, d, hd, hf ▸ congrArg _ (form_unique hd' hk)⟩ hfresh
    · exact ih hlt hlt' hn

namespace Category.Reads

/-- A field is set exactly if a line of the block is about it. -/
theorem isSet_iff (h : c.Reads handlers b.body ds) (d : Directive) :
    (b.draft c ds).isSet d = true ↔
      ∃ l ∈ b.body, ∃ d', c.Form handlers l.text d' ∧ d'.field = d.field := by
  rw [Block.isSet_draft, decide_eq_true_eq, mem_fields_iff h.1]

/-- A field that rules for outgoing texts do not have is set exactly by the lines that look like it. -/
lemma isSet_iff_written (h : c.Reads handlers b.body ds) {d : Directive} {Looks : Line → Prop}
    (hfield : ∀ f, d.field ≠ .packet f)
    (looks : ∀ l d', c ≠ .packet → c.Form handlers l.text d' → (d'.field = d.field ↔ Looks l)) :
    (b.draft c ds).isSet d = true ↔ c ≠ .packet ∧ ∃ l ∈ b.body, Looks l := by
  rw [h.isSet_iff]
  constructor
  · rintro ⟨l, hl, d', hd', hf⟩
    have hc : c ≠ .packet := by
      rintro rfl
      have hpackets := forPackets_of_form hd'
      cases d' with
      | packet e => exact hfield _ hf.symm
      | _ => cases hpackets
    exact ⟨hc, l, hl, (looks l d' hc hd').1 hf⟩
  · rintro ⟨hc, l, hl, hlooks⟩
    obtain ⟨d', hd'⟩ := exists_form h.1 hl
    exact ⟨l, hl, d', hd', (looks l d' hc hd').2 hlooks⟩

lemma isSet_iff_begins (h : c.Reads handlers b.body ds) {d : Directive}
    (hm : (words, read) ∈ Directive.withArgument c handlers) (hfield : ∀ f, d.field ≠ .packet f)
    (reads : ∀ arg d', read arg = .ok d' → d'.field = d.field)
    (begins : ∀ text d', Directive.StandardForm c handlers text d' → d'.field = d.field →
      ∃ arg, text = words ++ arg) :
    (b.draft c ds).isSet d = true ↔ c ≠ .packet ∧ ∃ l ∈ b.body, l.Begins words := by
  refine h.isSet_iff_written hfield fun l d' hc hd' => ⟨fun hf => ?_, ?_⟩
  · rw [Category.Form, if_neg hc] at hd'
    exact begins l.text d' hd' hf
  · rintro ⟨arg, ht⟩
    exact reads arg d' (read_of_form hm hc (ht ▸ hd'))

lemma replacements_iff (h : c.Reads handlers b.body ds) : (b.draft c ds).replacements.isSome = true ↔
    c ≠ .packet ∧ ∃ l ∈ b.body, l.text = "then replace" ∨ l.Begins "then replace " := by
  refine h.isSet_iff_written (d := .replace []) nofun fun l d hc hd => ?_
  constructor
  · intro hf
    rw [Category.Form, if_neg hc] at hd
    generalize htext : l.text = text at hd
    cases hd <;> cases hf
    · exact .inr ⟨_, htext⟩
    · exact .inl rfl
  · rintro (ht | ⟨arg, ht⟩) <;> rw [ht] at hd
    · have herase : c.Form handlers "then replace" (.replace [""]) := by
        rw [Category.Form, if_neg hc]
        exact .erase
      rw [form_unique hd herase]
      rfl
    · cases read_of_form (List.mem_of_getElem? (i := 9) rfl) hc hd
      rfl

lemma rewrites_iff (h : c.Reads handlers b.body ds) :
    (b.draft c ds).rewrites.isSome = true ↔ c ≠ .packet ∧ ∃ l ∈ b.body, l.Begins "then rewrite " := by
  refine h.isSet_iff_begins (d := .rewrite []) (List.mem_of_getElem? (i := 7) rfl) nofun ?_ ?_
  · intro arg d hd
    cases hd
    rfl
  · intro text d hd hf
    cases hd <;> cases hf
    exact ⟨_, rfl⟩

lemma commands_iff (h : c.Reads handlers b.body ds) :
    (b.draft c ds).commands.isSome = true ↔ c ≠ .packet ∧ ∃ l ∈ b.body, l.Begins "then console " := by
  refine h.isSet_iff_begins (d := .run []) (List.mem_of_getElem? (i := 10) rfl) nofun ?_ ?_
  · intro arg d hd
    cases hd
    rfl
  · intro text d hd hf
    cases hd <;> cases hf
    exact ⟨_, rfl⟩

lemma ignoredModes_iff (h : c.Reads handlers b.body ds) :
    (b.draft c ds).ignoredModes.isSome = true ↔ c ≠ .packet ∧ ∃ l ∈ b.body, l.Begins "ignore gamemode " := by
  refine h.isSet_iff_begins (d := .ignoreModes []) (List.mem_of_getElem? (i := 8) rfl) nofun ?_ ?_
  · intro arg d hd
    obtain ⟨modes, -, rfl⟩ := Directive.readIgnoreModes_eq_ok_iff.1 hd
    rfl
  · intro text d hd hf
    cases hd <;> cases hf
    exact ⟨_, rfl⟩

end Category.Reads

namespace Block.Builds

lemma handler_form (h : b.Builds c handlers r) :
    ∀ k ∈ r.handler, ∃ l ∈ b.body, c.Form handlers l.text (.handle k) := by
  refine h.invariant (fun r => ∀ k ∈ r.handler, ∃ l ∈ b.body, c.Form handlers l.text (.handle k))
    ?opened fun l hl d hd s _ hs => ?set
  case opened =>
    rw [Draft.opened]
    split <;> simp [Draft.build, Draft.forPackets]
  case set =>
    cases d with
    | handle k =>
      intro _ hk
      obtain rfl := Option.some.inj hk
      exact ⟨l, hl, hd⟩
    | _ => exact hs

lemma handler_written (h : b.Builds c handlers r) : ∀ k ∈ r.handler, ∃ name,
    handlers.find? name = some k ∧ (∃ l ∈ b.body, l.text = "handle as " ++ name) ∧
      ∀ l ∈ b.body, ∀ other, l.text = "handle as " ++ other → other = name := by
  intro k hk
  obtain ⟨l, hl, hform⟩ := h.handler_form k hk
  obtain ⟨hc, name, hname, htext⟩ := exists_of_form_handle hform
  refine ⟨name, hname, ⟨l, hl, htext⟩, fun l' hl' other hother => ?_⟩
  obtain ⟨ds, hreads, -⟩ := h
  obtain ⟨d, hd⟩ := exists_form hreads.1 hl'
  have hread := read_of_form (List.mem_of_getElem? (i := 15) rfl) hc (hother ▸ hd)
  obtain ⟨k', -, rfl⟩ := Directive.readHandle_eq_ok_iff.1 hread
  -- both lines are about the handler, so they are one line
  obtain rfl := hreads.eq_of_field_eq hl hl' hform hd rfl
  exact (String.append_right_inj _).1 (hother.symm.trans htext)

end Block.Builds

lemma getD_ne_nil_iff {α : Type} {o : Option (List α)} (h : ∀ l ∈ o, l ≠ []) :
    o.getD [] ≠ [] ↔ o.isSome = true := by
  cases o with
  | none => simp
  | some l => simpa using h l rfl

end Written

/-! ### Files -/

section Files
variable {c : Category} {handlers : Registry} {source : String} {b : Block} {r : Rule}

/-- A line that opens a rule goes on after its first word, for it has no blank at its end. -/
lemma Splits.pattern_ne_empty {stray : List Line} {blocks : List Block}
    (h : Splits (linesOf source) stray blocks) (hb : b ∈ blocks) : b.pattern ≠ "" := by
  have hhead : b.head ∈ linesOf source :=
    h.lines ▸ List.mem_append_right stray (List.mem_flatMap.2 ⟨b, hb, List.mem_cons_self⟩)
  obtain ⟨cs, -, htext⟩ := exists_of_mem_linesOf hhead
  intro hempty
  have hopening := after_eq_some_iff.1 (h.head b hb)
  rw [hempty, htext] at hopening
  have htrim : trim cs = "match".toList ++ [' '] := by
    simpa [Progress.opening] using congrArg String.toList hopening
  cases isBlank_of_trim_eq htrim

lemma Registry.fine_of_ofText {file text : String} (h : Registry.ofText file text = .ok handlers) :
    ∀ k ∈ handlers.handlers, ∀ x ∈ k.fine, x.isFiniteNonNegative = true := by
  intro k hk
  rw [ofText_eq] at h
  split at h
  · obtain ⟨hvalid, hhandlers⟩ := ofDefinitions_eq_ok_iff.1 h
    rw [← hhandlers] at hk
    obtain ⟨d, hd, rfl⟩ := List.mem_map.1 hk
    exact (hvalid d hd).fine
  · cases h

/-- Every rule of a file that is read is well-formed, and belongs to its block. -/
theorem wellFormed_of_readRules {file text : String} {rules : List Rule}
    (hhandlers : Registry.ofText file text = .ok handlers)
    (h : readRules c handlers source = .ok rules) :
    ∃ blocks, Splits (linesOf source) [] blocks ∧
      List.Forall₂ (Rule.WellFormed c handlers) blocks rules := by
  have hsplit := splits_split (linesOf source)
  obtain ⟨hstray, hbuilds, -⟩ := hsplit.readRules_eq_ok_iff.1 h
  rw [hstray] at hsplit
  refine ⟨_, hsplit, ?_⟩
  have hline : ∀ l ∈ linesOf source, '\n' ∉ l.text.toList := fun l => newline_not_mem_line
  refine ((List.forall₂_and_left _ _).2 ⟨fun b => id, hbuilds⟩).imp ?_
  rintro b r ⟨hb, hr⟩
  obtain ⟨ds, hds, hbuilt⟩ := id hr
  have hlisted := hds.listed
  have hshaped := hr.shaped
  have hchecked := hr.checked
  exact
    { pattern := hr.pattern ▸ hsplit.pattern_ne_empty hb
      oneLine := hr.texts (by decide) (hsplit.not_mem_pattern hline hb)
        (hsplit.not_mem_body hline hb)
      isPacketRule := by simp [hr.isPacketRule]
      alone := hshaped.packet
      ignoredEvent := hchecked.ignoredEvent
      fine := hchecked.fine
      handlerFine := fun k hk => Registry.fine_of_ofText hhandlers k
        (List.mem_of_find?_eq_some (hr.handler k hk))
      notice := hchecked.notice
      kick := hchecked.kick
      replacements := hbuilt ▸ (getD_ne_nil_iff hlisted.replacements).trans hds.replacements_iff
      rewrites := hbuilt ▸ (getD_ne_nil_iff hlisted.rewrites).trans hds.rewrites_iff
      commands := hbuilt ▸ (getD_ne_nil_iff hlisted.commands).trans hds.commands_iff
      ignoredModes := hbuilt ▸ (getD_ne_nil_iff hlisted.ignoredModes).trans hds.ignoredModes_iff
      handler := hr.handler_written }

/-- A rule that uses most of what can be written, and its handler. -/
theorem wellFormed_of_readRules_full :
    let text := "Ads:\n  Fine: 2.5\n"
    let source := "match a+\nignore gamemode 1|\nthen replace\nthen notify mod hi\nhandle as Ads"
    let handlers : Registry := ⟨[{ name := "Ads", fine := Binary64.ofText? "2.5".toList }]⟩
    let r : Rule :=
      { pattern := "a+", ignoredModes := [.creative], replacements := [""],
        notice := some ⟨"mod", "hi"⟩, handler := handlers.find? "Ads" }
    Registry.ofText "handlers.yml" text = .ok handlers ∧
      readRules .chat handlers source = .ok [r] ∧
      ∃ blocks, Splits (linesOf source) [] blocks ∧
        List.Forall₂ (Rule.WellFormed .chat handlers) blocks [r] := by
  intro text source handlers r
  have hhandlers : Registry.ofText "handlers.yml" text = .ok handlers := by decide +kernel
  have h : readRules .chat handlers source = .ok [r] := by decide +kernel
  exact ⟨hhandlers, h, wellFormed_of_readRules hhandlers h⟩

end Files

end Moderation
