import Mathlib.Data.List.Basic
import Moderation.Proofs.Rule.Field

/-!
Rules that directives are offered to, in any order and number. A directive is refused exactly if one about
the same field was offered before, and then nothing changes. In the end each field holds what was said
about it first.
-/
namespace Moderation

/-- What is said about a field of the part for outgoing texts, as the directive that says it. -/
def PacketRule.content (p : PacketRule) : PacketField → Option PacketDirective
  | .denies => if p.denies then some .deny else none
  | .quiet => if p.quiet then some .quiet else none
  | .replace => p.replace.map .replace
  | .rewrite => p.rewrite.map .rewrite
  | .rewriteIn world => (p.rewriteIn.lookup world).map (.rewriteIn world)

/-- What is said about a field of a rule that is being written, as the directive that says it. -/
def Draft.content (r : Draft) : Field → Option Directive
  | .id => r.id.map .id
  | .ignoredMessage => r.ignoredMessage.map .ignoreMessage
  | .bypass => r.bypass.map .bypass
  | .ignoredEvent => r.ignoredEvent.map .ignoreEvent
  | .ignoredModes => r.ignoredModes.map .ignoreModes
  | .stripBefore => r.stripBefore.map .stripBefore
  | .replaceBefore => r.replaceBefore.map fun p => .replaceBefore p.1 p.2
  | .replacements => r.replacements.map .replace
  | .rewrites => r.rewrites.map .rewrite
  | .commands => r.commands.map .run
  | .warning => r.warning.map .warn
  | .notice => r.notice.map fun n => .notify n.permission n.message
  | .kick => r.kick.map .kick
  | .handler => r.handler.map .handle
  | .cancels => if r.cancels then some .deny else none
  | .logs => if r.logs then some .log else none
  | .fine => r.fine.map .fine
  | .packet f => (r.packet.bind fun p => p.content f).map .packet

/-- What a rule holds of a field, as the directive that says it. An empty list holds nothing. -/
def Rule.content (r : Rule) : Field → Option Directive
  | .id => r.id.map .id
  | .ignoredMessage => r.ignoredMessage.map .ignoreMessage
  | .bypass => r.bypass.map .bypass
  | .ignoredEvent => r.ignoredEvent.map .ignoreEvent
  | .ignoredModes => if r.ignoredModes = [] then none else some (.ignoreModes r.ignoredModes)
  | .stripBefore => r.stripBefore.map .stripBefore
  | .replaceBefore => r.replaceBefore.map fun p => .replaceBefore p.1 p.2
  | .replacements => if r.replacements = [] then none else some (.replace r.replacements)
  | .rewrites => if r.rewrites = [] then none else some (.rewrite r.rewrites)
  | .commands => if r.commands = [] then none else some (.run r.commands)
  | .warning => r.warning.map .warn
  | .notice => r.notice.map fun n => .notify n.permission n.message
  | .kick => r.kick.map .kick
  | .handler => r.handler.map .handle
  | .cancels => if r.cancels then some .deny else none
  | .logs => if r.logs then some .log else none
  | .fine => r.fine.map .fine
  | .packet f => (r.packet.bind fun p => p.content f).map .packet

/-- Whether a directive lists nothing. -/
def Directive.isEmptyList : Directive → Bool
  | .ignoreModes modes => modes.isEmpty
  | .replace alternatives | .rewrite alternatives => alternatives.isEmpty
  | .run commands => commands.isEmpty
  | _ => false

/-- What a rule keeps of a directive: a player who is kicked without a message is told the usual one. -/
def Directive.kept : Directive → Directive
  | .kick message => .kick (if message = "" then defaultKick else message)
  | d => d

/-! ### Fields -/

namespace PacketRule

lemma content_default (f : PacketField) : ({} : PacketRule).content f = none := by cases f <;> rfl

lemma isSet_eq_isSome_content (p : PacketRule) (d : PacketDirective) :
    p.isSet d = (p.content d.field).isSome := by
  cases d with
  | deny => cases h : p.denies <;> simp [isSet, content, PacketDirective.field, h]
  | quiet => cases h : p.quiet <;> simp [isSet, content, PacketDirective.field, h]
  | replace | rewrite | rewriteIn => simp [isSet, content, PacketDirective.field]

lemma content_set (p : PacketRule) (d : PacketDirective) (f : PacketField) :
    (p.set d).content f = if d.field = f then some d else p.content f := by
  cases d with
  | rewriteIn world text =>
    cases f with
    | rewriteIn other =>
      by_cases h : other = world
      · simp [set, content, PacketDirective.field, lookup_insertSorted, h]
      · simp [set, content, PacketDirective.field, lookup_insertSorted, h, Ne.symm h]
    | _ => rfl
  | _ => cases f <;> rfl

end PacketRule

namespace Draft

lemma content_packet_getD (r : Draft) (f : PacketField) :
    r.content (.packet f) = ((r.packet.getD {}).content f).map .packet := by
  cases h : r.packet with
  | none => simp [content, h, PacketRule.content_default]
  | some p => simp [content, h]

lemma isSet_eq_isSome_content (r : Draft) (d : Directive) :
    r.isSet d = (r.content d.field).isSome := by
  cases d with
  | packet d =>
    rw [Directive.field, content_packet_getD, Option.isSome_map, isSet,
      PacketRule.isSet_eq_isSome_content]
  | deny => cases h : r.cancels <;> simp [isSet, content, Directive.field, h]
  | log => cases h : r.logs <;> simp [isSet, content, Directive.field, h]
  | _ => simp [isSet, content, Directive.field]

lemma content_set (r : Draft) (d : Directive) (f : Field) :
    (r.set d).content f = if d.field = f then some d.kept else r.content f := by
  cases d with
  | packet d =>
    cases f with
    | packet f =>
      rw [content_packet_getD, content_packet_getD]
      simp only [set, Option.getD_some, PacketRule.content_set, Directive.field, Field.packet.injEq]
      split <;> rfl
    | _ => rfl
  | _ => cases f <;> rfl

@[simp] lemma content_opened (c : Category) (pattern : String) (f : Field) :
    (opened c pattern).content f = none := by
  cases c <;> cases f <;> first | rfl | (rename_i f; cases f <;> rfl)

lemma filter_map_of_not_isEmptyList {α : Type} (o : Option α) (say : α → Directive)
    (hsay : ∀ a, (say a).isEmptyList = false) :
    (o.map say).filter (fun d => !d.isEmptyList) = o.map say := by
  cases o <;> simp [hsay, Option.filter]

lemma filter_map_of_isEmptyList {α : Type} (o : Option (List α)) (say : List α → Directive)
    (hsay : ∀ l, (say l).isEmptyList = l.isEmpty) :
    (o.map say).filter (fun d => !d.isEmptyList) =
      if o.getD [] = [] then none else some (say (o.getD [])) := by
  cases o with
  | none => rfl
  | some l => cases l <;> simp [hsay, Option.filter]

lemma content_build (r : Draft) (f : Field) :
    r.build.content f = (r.content f).filter fun d => !d.isEmptyList := by
  cases f with
  | ignoredModes => exact (filter_map_of_isEmptyList _ _ fun _ => rfl).symm
  | replacements => exact (filter_map_of_isEmptyList _ _ fun _ => rfl).symm
  | rewrites => exact (filter_map_of_isEmptyList _ _ fun _ => rfl).symm
  | commands => exact (filter_map_of_isEmptyList _ _ fun _ => rfl).symm
  | cancels =>
    cases h : r.cancels <;> simp [build, Rule.content, content, h, Directive.isEmptyList, Option.filter]
  | logs =>
    cases h : r.logs <;> simp [build, Rule.content, content, h, Directive.isEmptyList, Option.filter]
  | _ => exact (filter_map_of_not_isEmptyList _ _ fun _ => rfl).symm

/-! ### A directive that is offered -/

/-- A directive that is refused has found the part of the rule that it looks into. -/
lemma reached_of_isSet {r : Draft} {d : Directive} (h : r.isSet d = true) : r.reached d = r := by
  cases d with
  | packet d =>
    cases hp : r.packet with
    | none => simp [isSet, hp] at h
    | some p => rw [reached, hp, Option.getD_some, ← hp]
  | _ => rfl

lemma isSet_reached (r : Draft) (d : Directive) : (r.reached d).isSet d = r.isSet d := by
  cases d <;> rfl

lemma set_reached (r : Draft) (d : Directive) : (r.reached d).set d = r.set d := by
  cases d <;> rfl

/-- Offering a directive adds it, or refuses it and leaves the whole rule as it was. -/
theorem offer_eq (r : Draft) (d : Directive) :
    r.offer d = match r.add? d with
      | some s => (none, s)
      | none => (some d.title, r) := by
  simp only [offer, add?, isSet_reached, set_reached]
  cases h : r.isSet d with
  | true => simp [reached_of_isSet h]
  | false => simp

lemma offer_of_isSet {r : Draft} {d : Directive} (h : r.isSet d = true) :
    r.offer d = (some d.title, r) := by
  simp [offer_eq, add?, h]

lemma offer_of_not_isSet {r : Draft} {d : Directive} (h : r.isSet d = false) :
    r.offer d = (none, r.set d) := by
  simp [offer_eq, add?, h]

lemma content_offer (r : Draft) (d : Directive) (f : Field) :
    (r.offer d).2.content f =
      (r.content f).or (if d.field = f then some d.kept else none) := by
  cases h : r.isSet d with
  | true =>
    rw [offer_of_isSet h]
    rw [isSet_eq_isSome_content] at h
    split
    · rename_i hf
      rw [← hf, Option.or_of_isSome h]
    · rw [Option.or_none]
  | false =>
    rw [offer_of_not_isSet h, content_set]
    rw [isSet_eq_isSome_content, Option.isSome_eq_false_iff, Option.isNone_iff_eq_none] at h
    split
    · rename_i hf
      rw [← hf, h, Option.none_or]
    · rw [Option.or_none]

lemma pattern_offer (r : Draft) (d : Directive) : (r.offer d).2.pattern = r.pattern := by
  cases h : r.isSet d with
  | true => rw [offer_of_isSet h]
  | false => rw [offer_of_not_isSet h, pattern_set]

/-- A rule that has refused a directive for outgoing texts is a rule for them already. -/
lemma isPacketRule_offer (r : Draft) (d : Directive) :
    (r.offer d).2.isPacketRule = (r.isPacketRule || d.forPackets) := by
  cases h : r.isSet d with
  | true =>
    rw [offer_of_isSet h]
    cases d with
    | packet d => cases hp : r.packet <;> simp_all [isSet, isPacketRule]
    | _ => simp [Directive.forPackets]
  | false => rw [offer_of_not_isSet h, isPacketRule_set]

/-! ### Directives that are offered one after the other -/

/-- The rule after directives are offered to it. -/
def offers (r : Draft) (ds : List Directive) : Draft := ds.foldl (fun r d => (r.offer d).2) r

lemma content_offers (r : Draft) (ds : List Directive) (f : Field) :
    (r.offers ds).content f =
      (r.content f).or ((ds.find? fun d => d.field = f).map Directive.kept) := by
  induction ds generalizing r with
  | nil => simp [offers]
  | cons d ds ih =>
    have hstep : r.offers (d :: ds) = (r.offer d).2.offers ds := rfl
    rw [hstep, ih, content_offer, Option.or_assoc, List.find?_cons]
    by_cases hf : d.field = f <;> simp [hf]

lemma pattern_offers (r : Draft) (ds : List Directive) : (r.offers ds).pattern = r.pattern := by
  induction ds generalizing r with
  | nil => rfl
  | cons d ds ih => exact (ih (r.offer d).2).trans (pattern_offer r d)

lemma isPacketRule_offers (r : Draft) (ds : List Directive) :
    (r.offers ds).isPacketRule = (r.isPacketRule || ds.any (·.forPackets)) := by
  induction ds generalizing r with
  | nil => simp [offers]
  | cons d ds ih =>
    have hstep : r.offers (d :: ds) = (r.offer d).2.offers ds := rfl
    rw [hstep, ih, isPacketRule_offer, List.any_cons, Bool.or_assoc]

lemma isSet_offers_opened (c : Category) (pattern : String) (ds : List Directive) (d : Directive) :
    ((opened c pattern).offers ds).isSet d = true ↔ d.field ∈ ds.map (·.field) := by
  simp [isSet_eq_isSome_content, content_offers]

/-- After any directives, a directive is refused by its name exactly if one about its field was offered before,
and the whole rule stays as it was; any other one is added. Each field holds what the first directive about
it says, and nothing if there is none. A rule is for outgoing texts if it began so or if any directive was for
them, be it refused or not. The rule that is built has the same pattern and holds the same, where a list
that was not written is empty, as one is that was written without members. -/
theorem offers_opened (c : Category) (pattern : String) (ds : List Directive) :
    let r := (opened c pattern).offers ds
    (∀ d, r.offer d = if d.field ∈ ds.map (·.field) then (some d.title, r) else (none, r.set d)) ∧
      r.pattern = pattern ∧
      (∀ f, r.content f = (ds.find? fun d => d.field = f).map Directive.kept) ∧
      (r.isPacketRule = true ↔ c = .packet ∨ ∃ d ∈ ds, d.forPackets = true) ∧
      r.build.pattern = pattern ∧
      (∀ f, r.build.content f =
        ((ds.find? fun d => d.field = f).map Directive.kept).filter fun d => !d.isEmptyList) ∧
      (r.build.isPacketRule = true ↔ c = .packet ∨ ∃ d ∈ ds, d.forPackets = true) := by
  intro r
  have hpattern : r.pattern = pattern := by rw [pattern_offers, pattern_opened]
  have hcontent (f : Field) : r.content f = (ds.find? fun d => d.field = f).map Directive.kept := by
    rw [content_offers, content_opened, Option.none_or]
  have hpacket : r.isPacketRule = true ↔ c = .packet ∨ ∃ d ∈ ds, d.forPackets = true := by
    rw [isPacketRule_offers, isPacketRule_opened]
    simp
  refine ⟨fun d => ?_, hpattern, hcontent, hpacket, hpattern, fun f => ?_, hpacket⟩
  · by_cases h : d.field ∈ ds.map (·.field)
    · rw [if_pos h, offer_of_isSet ((isSet_offers_opened c pattern ds d).2 h)]
    · have hopen : r.isSet d = false :=
        Bool.eq_false_iff.2 (mt (isSet_offers_opened c pattern ds d).1 h)
      rw [if_neg h, offer_of_not_isSet hopen]
  · rw [content_build, hcontent]

example : (forPackets "welcome").offers
    [.packet (.rewriteIn "nether" "first"), .packet (.rewriteIn "end" "none"),
      .packet (.rewriteIn "nether" "again")] =
    { forPackets "welcome" with packet := some { rewriteIn := [("end", "none"), ("nether", "first")] } } := by
  decide +kernel

end Draft
end Moderation
