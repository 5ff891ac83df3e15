import Mathlib.Tactic.Lemma
import Moderation.Rule.Directive

/-!
The fields of a rule. A directive sets one field and leaves the others alone, so that directives are
in each other's way exactly if they are about the same field.
-/
namespace Moderation

/-- What can be written about a rule for outgoing texts, the rewrites for each world apart. -/
inductive PacketField
  | denies
  | quiet
  | replace
  | rewrite
  | rewriteIn (world : String)
deriving DecidableEq, Repr

/-- What can be written about a rule. -/
inductive Field
  | id
  | ignoredMessage
  | bypass
  | ignoredEvent
  | ignoredModes
  | stripBefore
  | replaceBefore
  | replacements
  | rewrites
  | commands
  | warning
  | notice
  | kick
  | handler
  | cancels
  | logs
  | fine
  | packet (field : PacketField)
deriving DecidableEq, Repr

def PacketDirective.field : PacketDirective → PacketField
  | .deny => .denies
  | .quiet => .quiet
  | .replace _ => .replace
  | .rewrite _ => .rewrite
  | .rewriteIn world _ => .rewriteIn world

def Directive.field : Directive → Field
  | .id _ => .id
  | .ignoreMessage _ => .ignoredMessage
  | .bypass _ => .bypass
  | .ignoreEvent _ => .ignoredEvent
  | .ignoreModes _ => .ignoredModes
  | .stripBefore _ => .stripBefore
  | .replaceBefore .. => .replaceBefore
  | .replace _ => .replacements
  | .rewrite _ => .rewrites
  | .run _ => .commands
  | .warn _ => .warning
  | .notify .. => .notice
  | .kick _ => .kick
  | .handle _ => .handler
  | .deny => .cancels
  | .log => .logs
  | .fine _ => .fine
  | .packet d => .packet d.field

/-- Whether a directive is for outgoing texts. -/
def Directive.forPackets : Directive → Bool
  | .packet _ => true
  | _ => false

theorem lookup_insertSorted (key value world : String) (l : List (String × String)) :
    (insertSorted key value l).lookup world = if world = key then some value else l.lookup world := by
  induction l with
  | nil =>
    rw [insertSorted, List.lookup_cons, List.lookup_nil]
    by_cases h : world = key
    · simp [h]
    · have hb : (world == key) = false := beq_false_of_ne h
      simp only [hb, if_neg h]
  | cons e r ih =>
    simp only [insertSorted]
    split
    · rename_i hlt
      rw [List.lookup_cons, List.lookup_cons, ih]
      by_cases h : world = e.1
      · have hk : world ≠ key := fun hk => String.lt_irrefl key (by rwa [← h, hk] at hlt)
        simp [h, h ▸ hk]
      · have hb : (world == e.1) = false := beq_false_of_ne h
        simp only [hb]
    · by_cases h : world = key
      · simp [h]
      · have hb : (world == key) = false := beq_false_of_ne h
        simp only [List.lookup_cons, hb, if_neg h]

namespace PacketRule

/-- A directive sets its own field and no other. -/
theorem isSet_set (p : PacketRule) (d x : PacketDirective) :
    (p.set d).isSet x = (p.isSet x || decide (d.field = x.field)) := by
  cases d with
  | rewriteIn world text =>
    cases x with
    | rewriteIn other _ =>
      by_cases h : other = world
      · simp [set, isSet, PacketDirective.field, lookup_insertSorted, h]
      · simp [set, isSet, PacketDirective.field, lookup_insertSorted, h, Ne.symm h]
    | _ => simp [set, isSet, PacketDirective.field]
  | _ => cases x <;> simp [set, isSet, PacketDirective.field]

@[simp] theorem isSet_default (d : PacketDirective) : ({} : PacketRule).isSet d = false := by
  cases d <;> rfl

end PacketRule

namespace Draft

/-- A directive sets its own field and no other. -/
theorem isSet_set (r : Draft) (d x : Directive) :
    (r.set d).isSet x = (r.isSet x || decide (d.field = x.field)) := by
  cases d with
  | packet d =>
    cases x with
    | packet x => simp [set, isSet, Directive.field, PacketRule.isSet_set]
    | _ => simp [set, isSet, Directive.field]
  | _ => cases x <;> simp [set, isSet, Directive.field]

/-- Nothing is set but the pattern when a rule is opened. -/
@[simp] theorem isSet_opened (c : Category) (pattern : String) (d : Directive) :
    (opened c pattern).isSet d = false := by
  cases c <;> cases d <;> first | rfl | exact PacketRule.isSet_default _

/-- After directives exactly those fields are set that were set before or that a directive sets. -/
theorem isSet_foldl_set (ds : List Directive) (r : Draft) (x : Directive) :
    (ds.foldl set r).isSet x = (r.isSet x || decide (x.field ∈ ds.map (·.field))) := by
  induction ds generalizing r with
  | nil => simp
  | cons d ds ih =>
    rw [List.foldl_cons, ih, isSet_set, Bool.or_assoc]
    by_cases h : d.field = x.field <;> simp [h, eq_comm (a := x.field)]

@[simp] theorem isPacketRule_set (r : Draft) (d : Directive) :
    (r.set d).isPacketRule = (r.isPacketRule || d.forPackets) := by
  cases d <;> simp [set, isPacketRule, Directive.forPackets]

end Draft

end Moderation
