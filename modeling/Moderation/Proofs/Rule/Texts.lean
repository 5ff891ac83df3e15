import Moderation.Proofs.Number.ReadBack
import Moderation.Proofs.Rule.Block
import Moderation.Proofs.Text.Split

/-!
The texts of rules that were written, and the shape of what is written about them. Every text of a
rule stands in the lines of its block, apart from the message for players who are kicked without one.
-/
namespace Moderation
open Moderation.Text

variable {P : String → Prop}

/-- Whether all texts that say what a rule does to outgoing texts have a property. -/
structure PacketRule.Texts (P : String → Prop) (p : PacketRule) : Prop where
  replace : ∀ s ∈ p.replace, P s
  rewrite : ∀ s ∈ p.rewrite, P s
  rewriteIn : ∀ e ∈ p.rewriteIn, P e.1 ∧ P e.2

/-- Whether all texts of a rule have a property. Of a handler only the name is written. -/
structure Rule.Texts (P : String → Prop) (r : Rule) : Prop where
  pattern : P r.pattern
  id : ∀ s ∈ r.id, P s
  ignoredMessage : ∀ s ∈ r.ignoredMessage, P s
  bypass : ∀ s ∈ r.bypass, P s
  stripBefore : ∀ s ∈ r.stripBefore, P s
  replaceBefore : ∀ p ∈ r.replaceBefore, P p.1 ∧ P p.2
  replacements : ∀ s ∈ r.replacements, P s
  rewrites : ∀ s ∈ r.rewrites, P s
  commands : ∀ s ∈ r.commands, P s
  warning : ∀ s ∈ r.warning, P s
  notice : ∀ n ∈ r.notice, P n.permission ∧ P n.message
  kick : ∀ s ∈ r.kick, P s
  handler : ∀ h ∈ r.handler, P h.name
  packet : ∀ p ∈ r.packet, p.Texts P

/-- Whether all texts of a directive have a property. -/
def Directive.Texts (P : String → Prop) : Directive → Prop
  | .id s | .ignoreMessage s | .bypass s | .stripBefore s | .warn s | .kick s => P s
  | .replaceBefore s t | .notify s t => P s ∧ P t
  | .replace l | .rewrite l | .run l => ∀ s ∈ l, P s
  | .handle h => P h.name
  | .packet (.replace s) | .packet (.rewrite s) => P s
  | .packet (.rewriteIn world s) => P world ∧ P s
  | .ignoreEvent _ | .ignoreModes _ | .deny | .log | .fine _ | .packet .deny | .packet .quiet => True

/-- The shape of a rule that was written: what is replaced before the rest ends where its words say,
permissions and worlds are single words, an amount is in the form in which numbers are kept, and a rule
for outgoing texts does nothing else. -/
structure Rule.Shaped (r : Rule) : Prop where
  replaceBefore : ∀ p ∈ r.replaceBefore, ¬" with ".toList <:+: p.1.toList
  notice : ∀ n ∈ r.notice, ' ' ∉ n.permission.toList
  fine : ∀ x ∈ r.fine, x.Kept
  rewriteIn : ∀ p ∈ r.packet, ∀ e ∈ p.rewriteIn, ' ' ∉ e.1.toList
  packet : ∀ p ∈ r.packet, r = { pattern := r.pattern, packet := some p }

/-- Whether no list that was written is empty. -/
structure Draft.Listed (r : Draft) : Prop where
  ignoredModes : ∀ ms ∈ r.ignoredModes, ms ≠ []
  replacements : ∀ l ∈ r.replacements, l ≠ []
  rewrites : ∀ l ∈ r.rewrites, l ≠ []
  commands : ∀ l ∈ r.commands, l ≠ []

/-- The shape of a directive that was written. -/
def Directive.Shaped : Directive → Prop
  | .ignoreModes ms => ms ≠ []
  | .replace l | .rewrite l | .run l => l ≠ []
  | .replaceBefore s _ => ¬" with ".toList <:+: s.toList
  | .notify s _ => ' ' ∉ s.toList
  | .fine x => x.Kept
  | .packet (.rewriteIn world _) => ' ' ∉ world.toList
  | _ => True

/-! ### Directives change rules -/

lemma mem_insertSorted {key value : String} {l : List (String × String)} {e : String × String}
    (h : e ∈ insertSorted key value l) : e = (key, value) ∨ e ∈ l := by
  induction l with
  | nil => exact .inl (List.mem_singleton.1 h)
  | cons f l ih =>
    simp only [insertSorted] at h
    split at h
    · obtain rfl | h := List.mem_cons.1 h
      · exact .inr List.mem_cons_self
      · exact (ih h).imp_right (List.mem_cons_of_mem f)
    · exact List.mem_cons.1 h

lemma PacketRule.Texts.set {p : PacketRule} (hp : p.Texts P) {d : PacketDirective}
    (hd : (Directive.packet d).Texts P) : (p.set d).Texts P := by
  cases d with
  | deny | quiet => exact { hp with }
  | replace s => exact { hp with replace := by simpa [PacketRule.set, Directive.Texts] using hd }
  | rewrite s => exact { hp with rewrite := by simpa [PacketRule.set, Directive.Texts] using hd }
  | rewriteIn world s =>
    refine { hp with rewriteIn := fun e he => ?_ }
    obtain rfl | he := mem_insertSorted he
    · exact hd
    · exact hp.rewriteIn e he

namespace Draft
variable {r : Draft} {d : Directive}

lemma texts_set (hk : P defaultKick) (hr : r.build.Texts P) (hd : d.Texts P) : (r.set d).build.Texts P := by
  cases d with
  | id s => exact { hr with id := by simpa [set, build, Directive.Texts] using hd }
  | ignoreMessage s =>
    exact { hr with ignoredMessage := by simpa [set, build, Directive.Texts] using hd }
  | bypass s => exact { hr with bypass := by simpa [set, build, Directive.Texts] using hd }
  | stripBefore s => exact { hr with stripBefore := by simpa [set, build, Directive.Texts] using hd }
  | replaceBefore s t =>
    exact { hr with replaceBefore := by simpa [set, build, Directive.Texts] using hd }
  | replace l => exact { hr with replacements := by simpa [set, build, Directive.Texts] using hd }
  | rewrite l => exact { hr with rewrites := by simpa [set, build, Directive.Texts] using hd }
  | run l => exact { hr with commands := by simpa [set, build, Directive.Texts] using hd }
  | warn s => exact { hr with warning := by simpa [set, build, Directive.Texts] using hd }
  | notify s t => exact { hr with notice := by simpa [set, build, Directive.Texts] using hd }
  | kick s =>
    refine { hr with kick := fun t ht => ?_ }
    obtain rfl := Option.some.inj ht
    split
    · exact hk
    · exact hd
  | handle h => exact { hr with handler := by simpa [set, build, Directive.Texts] using hd }
  | ignoreEvent | ignoreModes | deny | log | fine => exact { hr with }
  | packet d =>
    refine { hr with packet := fun p hp => ?_ }
    obtain rfl := Option.some.inj hp
    refine PacketRule.Texts.set ?_ hd
    cases h : r.packet with
    | none => exact ⟨by simp, by simp, by simp⟩
    | some p => exact hr.packet p h

lemma shaped_set (hr : r.build.Shaped) (hd : d.Shaped) (hk : r.isPacketRule = d.forPackets) :
    (r.set d).build.Shaped := by
  have alone (h : d.forPackets = false) : r.packet = none := by
    simpa [isPacketRule, h] using hk
  cases d with
  | replaceBefore s t =>
    exact { hr with
            replaceBefore := by simpa [set, build, Directive.Shaped] using hd
            packet := by simp [set, build, alone rfl] }
  | notify s t =>
    exact { hr with
            notice := by simpa [set, build, Directive.Shaped] using hd
            packet := by simp [set, build, alone rfl] }
  | fine x =>
    exact { hr with
            fine := by simpa [set, build, Directive.Shaped] using hd
            packet := by simp [set, build, alone rfl] }
  | id | ignoreMessage | bypass | ignoreEvent | ignoreModes | stripBefore | replace | rewrite | run | warn | kick | handle | deny | log =>
    exact { hr with packet := by simp [set, build, alone rfl] }
  | packet d =>
    obtain ⟨p, hp⟩ := Option.isSome_iff_exists.1 hk
    have hset : (r.set (.packet d)).build = { pattern := r.pattern, packet := some (p.set d) } := by
      have hbuild : (r.set (.packet d)).build = { r.build with packet := some (p.set d) } := by
        simp only [set, hp, Option.getD_some, build]
      rw [hbuild, hr.packet p hp]
      rfl
    have hworld : ∀ e ∈ (p.set d).rewriteIn, ' ' ∉ e.1.toList := by
      cases d with
      | rewriteIn world s =>
        intro e he
        obtain rfl | he := mem_insertSorted he
        · exact hd
        · exact hr.rewriteIn p hp e he
      | deny | quiet | replace | rewrite => exact hr.rewriteIn p hp
    rw [hset]
    exact { replaceBefore := by simp, notice := by simp, fine := by simp,
            rewriteIn := by simpa using hworld, packet := by simp }

lemma Listed.set (hr : r.Listed) (hd : d.Shaped) : (r.set d).Listed := by
  cases d with
  | ignoreModes =>
    exact { hr with ignoredModes := by simpa [Draft.set, Directive.Shaped] using hd }
  | replace => exact { hr with replacements := by simpa [Draft.set, Directive.Shaped] using hd }
  | rewrite => exact { hr with rewrites := by simpa [Draft.set, Directive.Shaped] using hd }
  | run => exact { hr with commands := by simpa [Draft.set, Directive.Shaped] using hd }
  | _ => exact { hr with }

end Draft

/-! ### Lines give directives -/

lemma mem_of_mem_dropEmptyEnd {p : String} {ps : List String} (h : p ∈ dropEmptyEnd ps) :
    p ∈ ps := by
  simp only [dropEmptyEnd] at h
  split at h
  · exact List.mem_of_mem_take h
  · have hd := List.mem_reverse.1 h
    exact List.mem_reverse.1 ((List.dropWhile_sublist _).subset hd)

lemma dropEmptyEnd_ne_nil {ps : List String} (h : ps ≠ []) : dropEmptyEnd ps ≠ [] := by
  simp only [dropEmptyEnd]
  split
  · simpa using h
  · assumption

lemma alternatives_ne_nil (s : String) : alternatives s ≠ [] :=
  dropEmptyEnd_ne_nil (by simp [parts])

section Lines
variable {c : Category} {handlers : Registry} {text : String} {d : Directive} {x : Char}

lemma not_mem_of_append {a b : String} (h : x ∉ (a ++ b).toList) : x ∉ b.toList := by
  rw [String.toList_append] at h
  exact fun hb => h (List.mem_append_right _ hb)

lemma not_mem_partsAround {s t : String} (h : x ∉ s.toList) :
    ∀ p ∈ partsAround t s, x ∉ p.toList := by
  intro p hp hm
  have hne : ∀ y ∈ s.toList, y ≠ x := fun y hy he => h (he ▸ hy)
  exact forall_mem_partsAround hne p hp x hm rfl

lemma not_mem_alternatives {s : String} (h : x ∉ s.toList) :
    ∀ p ∈ alternatives s, x ∉ p.toList := by
  intro p hp hm
  have hne : ∀ y ∈ s.toList, y ≠ x := fun y hy he => h (he ▸ hy)
  exact forall_mem_parts hne p (mem_of_mem_dropEmptyEnd hp) x hm rfl

namespace Directive

lemma StandardForm.texts (h : StandardForm c handlers text d) (hx : x ∉ text.toList) :
    d.Texts (x ∉ ·.toList) := by
  cases h with
  | deny | log | ignoreEvent | ignoreModes | fine => trivial
  | formerStrip | strip | id | ignoreString | ignorePerm | warn | kick => exact not_mem_of_append hx
  | @replaceBefore s _ _ parts =>
    have hp : ∀ p ∈ dropEmptyEnd (partsAround " with " s), x ∉ p.toList := fun p hp =>
      not_mem_partsAround (not_mem_of_append hx) p (mem_of_mem_dropEmptyEnd hp)
    rw [parts] at hp
    simpa [Texts] using hp
  | rewrite | replace | console => exact not_mem_alternatives (not_mem_of_append hx)
  | erase | kickSilently => simp [Texts]
  | notify =>
    have hm := not_mem_of_append hx
    simp only [String.toList_append, List.mem_append, not_or] at hm
    exact ⟨hm.1.1, hm.2⟩
  | handle known =>
    rw [Texts, Registry.name_of_find? known]
    exact not_mem_of_append hx

lemma PacketForm.texts (h : PacketForm text d) (hx : x ∉ text.toList) : d.Texts (x ∉ ·.toList) := by
  cases h with
  | deny | quiet => trivial
  | replace | rewrite => exact not_mem_of_append hx
  | rewriteIn =>
    have hm := not_mem_of_append hx
    simp only [String.toList_append, List.mem_append, not_or] at hm
    exact ⟨hm.1.1, hm.2⟩

lemma StandardForm.shaped (h : StandardForm c handlers text d) : d.Shaped := by
  cases h with
  | replaceBefore parts =>
    have hp := mem_of_mem_dropEmptyEnd (parts ▸ List.mem_cons_self)
    obtain ⟨q, hq, rfl⟩ := List.mem_map.1 hp
    have hi := not_infix_of_mem_splitAround (by simp) hq
    simpa [Shaped] using hi
  | ignoreModes known =>
    intro hm
    subst hm
    exact alternatives_ne_nil _ (List.forall₂_nil_right_iff.1 known)
  | rewrite | replace | console => exact alternatives_ne_nil _
  | erase => simp [Shaped]
  | notify oneWord => exact oneWord
  | fine number => exact Binary64.kept_of_ofText? number
  | _ => trivial

lemma PacketForm.shaped (h : PacketForm text d) : d.Shaped := by
  cases h with
  | rewriteIn oneWord => exact oneWord
  | _ => trivial

end Directive

/-- A directive has no character that its line has not. -/
lemma texts_of_form (h : c.Form handlers text d) (hx : x ∉ text.toList) :
    d.Texts (x ∉ ·.toList) := by
  rw [Category.Form] at h
  split at h
  · exact h.texts hx
  · exact h.texts hx

lemma shaped_of_form (h : c.Form handlers text d) : d.Shaped := by
  rw [Category.Form] at h
  split at h
  · exact h.shaped
  · exact h.shaped

lemma find?_of_form {k : Handler} (h : c.Form handlers text (.handle k)) :
    handlers.find? k.name = some k := by
  rw [Category.Form] at h
  split at h
  · cases h
  · cases h with
    | handle known => rwa [Registry.name_of_find? known]

end Lines

/-! ### Blocks build rules -/

section Blocks
variable {c : Category} {handlers : Registry} {b : Block} {r : Rule} {ds : List Directive} {x : Char}

/-- What holds when a rule is opened and is kept by each directive of a block holds of all that is
written in the block. -/
theorem Category.Reads.invariant (I : Draft → Prop) (h : c.Reads handlers b.body ds)
    (opened : I (Draft.opened c b.pattern))
    (set : ∀ l ∈ b.body, ∀ d, c.Form handlers l.text d → ∀ s : Draft,
      s.isPacketRule = d.forPackets → I s → I (s.set d)) : I (b.draft c ds) := by
  have run {ls : List Line} {ds : List Directive} {s : Draft}
      (hf : List.Forall₂ (fun l d => c.Form handlers l.text d) ls ds) (hl : ls ⊆ b.body)
      (hk : s.isPacketRule = decide (c = .packet)) (hs : I s) : I (ds.foldl Draft.set s) := by
    induction hf generalizing s with
    | nil => exact hs
    | cons hd _ ih =>
      obtain ⟨hl, hls⟩ := List.cons_subset.1 hl
      have hd' := forPackets_of_form hd
      exact ih hls (by simp [hk, hd']) (set _ hl _ hd s (hk.trans hd'.symm) hs)
  exact run h.1 (List.Subset.refl _) (Draft.isPacketRule_opened c b.pattern) opened

/-- The same for the rule that a block builds. -/
theorem Block.Builds.invariant (I : Rule → Prop) (h : b.Builds c handlers r)
    (opened : I (Draft.opened c b.pattern).build)
    (set : ∀ l ∈ b.body, ∀ d, c.Form handlers l.text d → ∀ s : Draft,
      s.isPacketRule = d.forPackets → I s.build → I (s.set d).build) : I r := by
  obtain ⟨ds, hds, rfl⟩ := h
  exact hds.invariant (fun s => I s.build) opened set

/-- A rule has no character that its block has not, unless a message for players who are kicked has
it. -/
theorem Block.Builds.texts (h : b.Builds c handlers r) (hk : x ∉ defaultKick.toList)
    (hp : x ∉ b.pattern.toList) (hb : ∀ l ∈ b.body, x ∉ l.text.toList) :
    r.Texts (x ∉ ·.toList) := by
  refine h.invariant (Rule.Texts _) ?_ fun l hl d hd s _ hs =>
    Draft.texts_set hk hs (texts_of_form hd (hb l hl))
  rw [Draft.opened]
  split <;> constructor <;> simp [Draft.build, Draft.forPackets, hp]
  constructor <;> simp

/-- A rule that a block builds has the shape of a written one. -/
theorem Block.Builds.shaped (h : b.Builds c handlers r) : r.Shaped := by
  refine h.invariant Rule.Shaped ?_ fun l _ d hd s hk hs => Draft.shaped_set hs (shaped_of_form hd) hk
  rw [Draft.opened]
  split <;> constructor <;> simp [Draft.build, Draft.forPackets]

/-- No list that is written in a block is empty. -/
theorem Category.Reads.listed (h : c.Reads handlers b.body ds) : (b.draft c ds).Listed := by
  refine h.invariant Draft.Listed ?_ fun l _ d hd s _ hs => hs.set (shaped_of_form hd)
  rw [Draft.opened]
  split <;> constructor <;> simp [Draft.forPackets]

/-- The handler of a rule is the one that goes by its name. -/
theorem Block.Builds.handler (h : b.Builds c handlers r) :
    ∀ k ∈ r.handler, handlers.find? k.name = some k := by
  refine h.invariant (fun r => ∀ k ∈ r.handler, handlers.find? k.name = some k) ?opened
    fun l _ d hd s _ hs => ?set
  case opened =>
    rw [Draft.opened]
    split <;> simp [Draft.build, Draft.forPackets]
  case set =>
    cases d with
    | handle =>
      intro _ hk
      obtain rfl := Option.some.inj hk
      exact find?_of_form hd
    | _ => exact hs

end Blocks

/-! ### Files have lines -/

section Files
variable {source : String} {l : Line} {ls stray : List Line} {blocks : List Block} {b : Block}
  {x : Char}

lemma exists_of_mem_linesOf (h : l ∈ linesOf source) :
    ∃ cs ∈ splitOn '\n' source.toList, l.text = String.ofList (trim cs) := by
  have hm := (List.mem_filter.1 h).1
  obtain ⟨i, hi, rfl⟩ := List.mem_mapIdx.1 hm
  obtain ⟨cs, hcs, ht⟩ := List.mem_map.1 (List.getElem_mem hi)
  exact ⟨cs, hcs, ht.symm⟩

lemma not_mem_line (hx : x ∉ source.toList) (h : l ∈ linesOf source) : x ∉ l.text.toList := by
  obtain ⟨cs, hcs, ht⟩ := exists_of_mem_linesOf h
  have hne : ∀ y ∈ source.toList, y ≠ x := fun y hy he => hx (he ▸ hy)
  intro hm
  rw [ht, String.toList_ofList] at hm
  exact (forall_mem_splitWhere hne cs hcs x (mem_of_mem_trim hm)).1 rfl

lemma newline_not_mem_line (h : l ∈ linesOf source) : '\n' ∉ l.text.toList := by
  obtain ⟨cs, hcs, ht⟩ := exists_of_mem_linesOf h
  intro hm
  rw [ht, String.toList_ofList] at hm
  have hany : ∀ y ∈ source.toList, True := fun _ _ => trivial
  have hsep := (forall_mem_splitWhere hany cs hcs _ (mem_of_mem_trim hm)).2
  simp at hsep

lemma linesOf_join {ts : List String} (hne : ts ≠ [])
    (hs : source.toList = join ['\n'] (ts.map String.toList))
    (ht : ∀ t ∈ ts, '\n' ∉ t.toList ∧ trim t.toList = t.toList ∧ saysNothing t = false) :
    linesOf source = ts.mapIdx fun i text => ⟨i + 1, text⟩ := by
  have hsplit : splitOn '\n' source.toList = ts.map String.toList := by
    rw [hs, splitOn_join (by simpa using hne)]
    simpa using fun t hmem => (ht t hmem).1
  have htrim : (splitOn '\n' source.toList).map (fun cs => String.ofList (trim cs)) = ts := by
    rw [hsplit, List.map_map, List.map_congr_left (g := id), List.map_id]
    intro t hmem
    simp [(ht t hmem).2.1]
  rw [linesOf, htrim, List.filter_eq_self]
  intro l hl
  obtain ⟨i, hi, rfl⟩ := List.mem_mapIdx.1 hl
  simp [(ht ts[i] (List.getElem_mem hi)).2.2]

namespace Splits

lemma not_mem_body (h : Splits ls stray blocks) (hl : ∀ l ∈ ls, x ∉ l.text.toList)
    (hb : b ∈ blocks) : ∀ l ∈ b.body, x ∉ l.text.toList := by
  intro l hlb
  refine hl l (h.lines ▸ List.mem_append_right stray ?_)
  exact List.mem_flatMap.2 ⟨b, hb, List.mem_cons_of_mem _ hlb⟩

lemma not_mem_pattern (h : Splits ls stray blocks) (hl : ∀ l ∈ ls, x ∉ l.text.toList)
    (hb : b ∈ blocks) : x ∉ b.pattern.toList := by
  have hx := hl b.head
    (h.lines ▸ List.mem_append_right stray (List.mem_flatMap.2 ⟨b, hb, List.mem_cons_self⟩))
  rw [after_eq_some_iff.1 (h.head b hb)] at hx
  exact not_mem_of_append hx

end Splits

end Files

end Moderation
