import Moderation.Proofs.Rule.Form
import Moderation.Proofs.Text.Color
import Moderation.Rule.Description

/-!
What a description tells. It is a line for each thing that is written about a rule, behind a label that
no other thing has, and so two rules have one description exactly if they look alike in each of them.
-/
namespace Moderation
open Moderation.Text

/-- Whether a text stays on its line. -/
def Text.OneLine (s : String) : Prop := '\n' ∉ s.toList

/-! ### Labelled lines -/

/-- The words behind labels, each with its label. -/
def labelled (fields : List (String × List String)) : List String :=
  fields.flatMap fun f => f.2.map (f.1 ++ ·)

/-- Words on lines of their own. -/
def describedLines (ws : List String) : String := String.join (ws.map describedLine)

@[simp] lemma describedLines_nil : describedLines [] = "" := rfl

@[simp] lemma describedLines_cons (w : String) (ws : List String) :
    describedLines (w :: ws) = describedLine w ++ describedLines ws := by
  simp [describedLines, String.join_cons]

@[simp] lemma describedLines_append (ws vs : List String) :
    describedLines (ws ++ vs) = describedLines ws ++ describedLines vs := by
  simp [describedLines, String.join_append]

lemma describedOption_eq {α : Type} (line : α → String) (o : Option α) :
    describedOption line o = describedLines (o.toList.map line) := by
  cases o <;> simp [describedOption]

lemma stripColors_describedLines (ws : List String) :
    stripColors (describedLines ws ++ "\x7d") =
      describedLines (ws.map stripColors) ++ "\x7d" := by
  induction ws with
  | nil => rfl
  | cons w ws ih =>
    have h : describedLine w ++ (describedLines ws ++ "\x7d") =
        "    " ++ (w ++ ("\n" ++ (describedLines ws ++ "\x7d"))) := by
      simp [describedLine, String.append_assoc]
    rw [describedLines_cons, String.append_assoc, h, stripColors_label (by decide),
      stripColors_append (by simp; decide), stripColors_label (by decide), ih]
    simp [describedLine, String.append_assoc]

lemma describedLines_injective {ws vs : List String} (hw : ∀ w ∈ ws, OneLine w)
    (hv : ∀ v ∈ vs, OneLine v)
    (h : describedLines ws ++ "\x7d" = describedLines vs ++ "\x7d") : ws = vs := by
  induction ws generalizing vs with
  | nil =>
    cases vs with
    | nil => rfl
    | cons v vs => simpa [describedLine] using congrArg String.toList h
  | cons w ws ih =>
    cases vs with
    | nil => simpa [describedLine] using congrArg String.toList h
    | cons v vs =>
      obtain ⟨hw, hws⟩ := List.forall_mem_cons.1 hw
      obtain ⟨hv, hvs⟩ := List.forall_mem_cons.1 hv
      have hl : w.toList ++ '\n' :: (describedLines ws ++ "\x7d").toList =
          v.toList ++ '\n' :: (describedLines vs ++ "\x7d").toList := by
        simpa [describedLine] using congrArg String.toList h
      -- both texts are cut at their first line break
      have hcut := (cut_eq_some_iff.2 ⟨rfl, hw⟩).symm.trans (hl ▸ cut_eq_some_iff.2 ⟨rfl, hv⟩)
      obtain ⟨hwv, hrest⟩ := Prod.mk.inj (Option.some.inj hcut)
      rw [String.toList_injective hwv, ih hws hvs (String.toList_injective hrest)]

lemma filterMap_after_own (label : String) (cs : List String) :
    (cs.map (label ++ ·)).filterMap (after label) = cs := by
  simp [List.filterMap_map, after_eq_some_iff.2]

lemma filterMap_after_others {label : String} {fs : List (String × List String)}
    (h : ∀ l ∈ fs.map (·.1), ¬label.toList <+: l.toList ∧ ¬l.toList <+: label.toList) :
    (labelled fs).filterMap (after label) = [] := by
  rw [List.filterMap_eq_nil_iff]
  intro w hw
  obtain ⟨f, hf, hw⟩ := List.mem_flatMap.1 hw
  obtain ⟨c, -, rfl⟩ := List.mem_map.1 hw
  exact Directive.after_append_of_apart (h f.1 (List.mem_map_of_mem hf)) c

/-- What stands behind the labels can be told apart. -/
lemma labelled_injective {fs gs : List (String × List String)} (ha : Directive.Apart (fs.map (·.1)))
    (hg : fs.map (·.1) = gs.map (·.1)) (h : labelled fs = labelled gs) : fs = gs := by
  induction fs generalizing gs with
  | nil => exact (List.map_eq_nil_iff.1 hg.symm).symm
  | cons f fs ih =>
    cases gs with
    | nil => simp at hg
    | cons g gs =>
      obtain ⟨l, cs⟩ := f
      obtain ⟨l', ds⟩ := g
      simp only [List.map_cons, List.cons.injEq] at hg
      obtain ⟨rfl, hg⟩ := hg
      obtain ⟨hl, ha⟩ := List.pairwise_cons.1 ha
      -- what follows the first label stands behind it and nowhere else
      have hcs : cs = ds := by
        have hf := congrArg (List.filterMap (after l)) h
        simp only [labelled, List.flatMap_cons, List.filterMap_append, filterMap_after_own] at hf
        change cs ++ (labelled fs).filterMap (after l) = ds ++ (labelled gs).filterMap (after l) at hf
        rwa [filterMap_after_others hl, filterMap_after_others (hg ▸ hl), List.append_nil,
          List.append_nil] at hf
      subst hcs
      rw [ih ha hg (List.append_cancel_left h)]

/-- Fields without the formatting codes of what stands behind their labels. -/
def strippedFields (fs : List (String × List String)) : List (String × List String) :=
  fs.map fun f => (f.1, f.2.map stripColors)

lemma map_stripColors_labelled {fs : List (String × List String)}
    (h : ∀ l ∈ fs.map (·.1), '§' ∉ l.toList) :
    (labelled fs).map stripColors = labelled (strippedFields fs) := by
  induction fs with
  | nil => rfl
  | cons f fs ih =>
    obtain ⟨hf, h⟩ := List.forall_mem_cons.1 h
    simp only [labelled, strippedFields, List.flatMap_cons, List.map_append, List.map_map,
      List.map_cons] at ih ⊢
    rw [ih h]
    congr 1
    exact List.map_congr_left fun c _ => stripColors_label hf c

/-! ### Descriptions -/

/-- A line about something that is there. -/
def flagged (b : Bool) : List String := if b then [""] else []

/-- What stands about a list: its members with commas between them, or nothing. -/
def joined (items : List String) : List String :=
  if items = [] then [] else [",".intercalate items ++ "'"]

/-- What a description says about outgoing texts, by labels. -/
def PacketRule.fields (p : PacketRule) : List (String × List String) :=
  [("Replace Word: '", p.replace.toList.map (· ++ "'")),
   ("Rewrite With: '", p.rewrite.toList.map (· ++ "'")),
   ("Rewrite In ", p.rewriteIn.map fun e => e.1 ++ (": '" ++ (e.2 ++ "'"))),
   ("Do Not Verbose: true", flagged p.quiet),
   ("Then Deny: ", [if p.denies then "true" else "false"])]

namespace Rule

/-- What a description says about a rule for the texts of players, by labels. -/
def standardFields (r : Rule) : List (String × List String) :=
  [("Id = ", r.id.toList),
   ("Match = '", [r.pattern ++ "'"]),
   ("Strip Before Match = '", r.stripBefore.toList.map (· ++ "'")),
   ("Replace Before Match = '", r.replaceBefore.toList.map fun p =>
      p.1 ++ ("' with '" ++ (p.2 ++ "'"))),
   ("Bypass With Perm = '", r.bypass.toList.map (· ++ "'")),
   ("Ignore Message = '", r.ignoredMessage.toList.map (· ++ "'")),
   ("Ignore Event = '", r.ignoredEvent.toList.map (·.title ++ "'")),
   ("Ignore Gamemodes = '", joined (r.ignoredModes.map (·.title))),
   ("Replace With = '", joined r.replacements),
   ("Rewrite = '", joined r.rewrites),
   ("Execute Command = '", joined r.commands),
   ("Handler = '", r.handler.toList.map (·.name ++ "'")),
   ("Warn Message = '", r.warning.toList.map (· ++ "'")),
   ("Notify = '", r.notice.toList.map fun n =>
      n.permission ++ ("' with '" ++ (n.message ++ "'"))),
   ("Kick Message = '", r.kick.toList.map (· ++ "'")),
   ("Fine = ", r.fine.toList.map (·.toText)),
   ("Deny = true", flagged r.cancels),
   ("Log = true", flagged r.logs)]

/-- What a description says, by labels. -/
def fields (r : Rule) : List (String × List String) :=
  match r.packet with
  | some p => ("Match = '", [r.pattern ++ "'"]) :: p.fields
  | none => r.standardFields

/-- The first line of a description. -/
def head (r : Rule) : String := if r.isPacketRule then "PacketRule\x7b\n" else "Rule\x7b\n"

lemma describedList_eq (title : String) (items : List String) :
    describedList title items = describedLines ((joined items).map ((title ++ " = '") ++ ·)) := by
  cases items with
  | nil => rfl
  | cons item items => simp [describedList, joined, String.append_assoc]

lemma flagged_eq (b : Bool) (words : String) :
    (if b then describedLine words else "") = describedLines ((flagged b).map (words ++ ·)) := by
  cases b <;> simp [flagged]

lemma describe_packet (p : PacketRule) : p.describe = describedLines (labelled p.fields) := by
  simp only [PacketRule.describe, describedOption_eq, flagged_eq, PacketRule.fields, labelled,
    List.flatMap_cons, List.flatMap_nil, describedLines_append, List.map_map]
  simp [describedLines, Function.comp_def, String.append_assoc]

lemma describeStandard_eq (r : Rule) :
    r.describeStandard = describedLines (labelled r.standardFields) := by
  unfold describeStandard
  simp only [describedOption_eq, flagged_eq, describedList_eq, standardFields, labelled,
    List.flatMap_cons, List.flatMap_nil, describedLines_append, List.map_map, String.reduceAppend]
  simp [Function.comp_def, String.append_assoc]

/-- A description is a line for each thing that is written about the rule. -/
theorem describe_eq (r : Rule) :
    r.describe = stripColors (r.head ++ (describedLines (labelled r.fields) ++ "\x7d")) := by
  cases h : r.packet with
  | none => simp [describe, head, fields, isPacketRule, h, describeStandard_eq, String.append_assoc]
  | some p =>
    simp [describe, head, fields, isPacketRule, h, describe_packet, labelled, String.append_assoc]

/-- No label begins another one, and none has a section sign. -/
lemma apart_labels (r : Rule) :
    Directive.Apart (r.fields.map (·.1)) ∧ ∀ l ∈ r.fields.map (·.1), '§' ∉ l.toList := by
  unfold fields
  cases r.packet with
  | none =>
    have h : r.standardFields.map (·.1) = ({ pattern := "" } : Rule).standardFields.map (·.1) := rfl
    rw [h]
    decide +kernel
  | some p =>
    have h : (("Match = '", [r.pattern ++ "'"]) :: p.fields).map (·.1) =
        (("Match = '", [""]) :: ({} : PacketRule).fields).map (·.1) := rfl
    rw [h]
    decide +kernel

lemma labels_eq {r s : Rule} (h : r.isPacketRule = s.isPacketRule) :
    r.fields.map (·.1) = s.fields.map (·.1) := by
  simp only [isPacketRule] at h
  unfold fields
  cases hr : r.packet <;> cases hs : s.packet <;> simp only [hr, hs, Option.isSome] at h ⊢
  · rfl
  · cases h
  · cases h
  · rfl

lemma describe_eq_stripped (r : Rule) :
    r.describe = r.head ++ (describedLines (labelled (strippedFields r.fields)) ++ "\x7d") := by
  have hhead : '§' ∉ r.head.toList := by
    unfold head
    split <;> decide
  rw [describe_eq, stripColors_label hhead, stripColors_describedLines,
    map_stripColors_labelled r.apart_labels.2]

/-- Rules whose texts stay on their lines have one description exactly if they are of one kind and
the same stands behind each label. -/
theorem describe_eq_iff_fields {r s : Rule} (hr : ∀ w ∈ labelled r.fields, OneLine w)
    (hs : ∀ w ∈ labelled s.fields, OneLine w) :
    r.describe = s.describe ↔
      r.isPacketRule = s.isPacketRule ∧ strippedFields r.fields = strippedFields s.fields := by
  have oneLine {r : Rule} (hr : ∀ w ∈ labelled r.fields, OneLine w) :
      ∀ w ∈ labelled (strippedFields r.fields), OneLine w := by
    rw [← map_stripColors_labelled r.apart_labels.2]
    intro w hw hn
    obtain ⟨v, hv, rfl⟩ := List.mem_map.1 hw
    exact hr v hv (mem_of_mem_stripColors hn)
  constructor
  · intro h
    rw [describe_eq_stripped, describe_eq_stripped] at h
    have hkind : r.isPacketRule = s.isPacketRule := by
      have hfirst := congrArg (·.toList.head?) h
      cases hr : r.isPacketRule <;> cases hs : s.isPacketRule <;> simp [head, hr, hs] at hfirst ⊢
    have hhead : r.head = s.head := by rw [head, head, hkind]
    have hlines := describedLines_injective (oneLine hr) (oneLine hs)
      ((String.append_right_inj _).1 (hhead ▸ h))
    have hlabels (t : Rule) : (strippedFields t.fields).map (·.1) = t.fields.map (·.1) := by
      simp [strippedFields, Function.comp_def]
    refine ⟨hkind, labelled_injective ?_ ?_ hlines⟩
    · rw [hlabels]
      exact r.apart_labels.1
    · rw [hlabels, hlabels, labels_eq hkind]
  · rintro ⟨hkind, hf⟩
    rw [describe_eq_stripped, describe_eq_stripped, hf, head, head, hkind]

end Rule

end Moderation
