import Mathlib.Tactic.Lemma
import Moderation.Handler.Definition

/-!
Definitions of handlers that are valid, and the handlers that they describe. Any other definition is refused for
the first of its flaws: what becomes of the text is looked at before the alert, and the fine comes last.
-/
namespace Moderation

/-- Whether a text says something: it is not empty, and not the word for none in capital or small letters. -/
def Speaks (s : String) : Prop := s ≠ "" ∧ s.toList.map Char.toLower ≠ "none".toList

/-- A text is given if it is there and says something. -/
theorem given_eq_some_iff {text : Option String} {s : String} :
    given text = some s ↔ text = some s ∧ Speaks s := by
  simp [given, Option.filter_eq_some_iff, Speaks, Text.saysNone, Text.sameLetters,
    Text.equalIgnoringAsciiCase]

namespace HandlerDefinition

/-- What a definition has to be like: nothing is replaced in a text that is blocked, a text is not replaced in two
ways, an alert is for someone, and a fine is a finite number that is not below zero. -/
structure Valid (d : HandlerDefinition) : Prop where
  block : d.blocks = true → given d.replaceWord = none ∧ given d.replaceWhole = none
  replace : given d.replaceWord = none ∨ given d.replaceWhole = none
  alert : given d.alertMessage ≠ none → given d.alertPermission ≠ none
  fine : ∀ x ∈ d.fine, x.isFiniteNonNegative = true

/-- What becomes of the text. -/
def result (d : HandlerDefinition) : Outcome :=
  if d.blocks then .block
  else match given d.replaceWord, given d.replaceWhole with
    | some word, _ => .replaceWord word
    | none, some text => .replaceWhole text
    | none, none => .pass

/-- The handler that a valid definition describes under a name. -/
def handler (name : String) (d : HandlerDefinition) : Handler where
  name := name
  bypass := given d.bypass
  ignoredCommands := d.ignoredCommands.getD []
  warning := given d.warning
  broadcast := given d.broadcast
  alert := (given d.alertMessage).bind fun message =>
    (given d.alertPermission).map fun permission => ⟨message, permission⟩
  console := given d.console
  commands := d.commands.getD []
  file := given d.file
  outcome := d.result
  fine := d.fine

/-! ### Flaws -/

/-- What is wrong about what becomes of the text. -/
def outcomeFlaws (d : HandlerDefinition) : List String :=
  (if d.blocks ∧ (given d.replaceWord ≠ none ∨ given d.replaceWhole ≠ none) then
    ["Block_Message cannot be combined with Replace_Word or Replace_Whole"] else []) ++
  if given d.replaceWord ≠ none ∧ given d.replaceWhole ≠ none then
    ["Replace_Word and Replace_Whole cannot both be set"] else []

/-- What is wrong about the alert. -/
def alertFlaws (d : HandlerDefinition) : List String :=
  if given d.alertMessage ≠ none ∧ given d.alertPermission = none then
    ["Staff_Alert_Message requires Staff_Alert_Permission"] else []

/-- What is wrong about the fine. -/
def fineFlaws (d : HandlerDefinition) : List String :=
  match d.fine with
  | some x =>
    if x.isFiniteNonNegative then [] else ["Fine must be a non-negative number, got " ++ x.toText]
  | none => []

/-- All that is wrong about a definition, in the order in which it is looked at. -/
def flaws (d : HandlerDefinition) : List String := d.outcomeFlaws ++ d.alertFlaws ++ d.fineFlaws

/-- A value that there is only without flaws, and else the first of them. -/
def unlessFlawed {α : Type} (a : α) : List String → Except String α
  | [] => .ok a
  | flaw :: _ => .error flaw

lemma unlessFlawed_bind {α β : Type} (a : α) (f : α → Except String β) (b : β) (fs gs : List String)
    (h : f a = unlessFlawed b gs) : (unlessFlawed a fs).bind f = unlessFlawed b (fs ++ gs) := by
  cases fs with
  | nil => exact h
  | cons flaw fs => rfl

variable {name : String} {d : HandlerDefinition}

lemma outcome_eq (d : HandlerDefinition) : d.outcome = unlessFlawed d.result d.outcomeFlaws := by
  cases hb : d.blocks <;> cases hw : given d.replaceWord <;> cases ht : given d.replaceWhole <;>
    simp [outcome, result, outcomeFlaws, unlessFlawed, hb, hw, ht]

lemma alert_eq (name : String) (d : HandlerDefinition) :
    d.alert = unlessFlawed (d.handler name).alert d.alertFlaws := by
  cases hm : given d.alertMessage <;> cases hp : given d.alertPermission <;>
    simp [alert, handler, alertFlaws, unlessFlawed, hm, hp]

lemma checkedFine_eq (d : HandlerDefinition) : d.checkedFine = unlessFlawed d.fine d.fineFlaws := by
  cases hf : d.fine with
  | none => simp [checkedFine, fineFlaws, unlessFlawed, hf]
  | some x => cases hx : x.isFiniteNonNegative <;> simp [checkedFine, fineFlaws, unlessFlawed, hf, hx]

/-- A definition without flaws gives the handler that it describes, and any other one is refused for its
first flaw. -/
theorem toHandler_eq (name : String) (d : HandlerDefinition) :
    d.toHandler name = (unlessFlawed (d.handler name) d.flaws).mapError (.invalidHandler name) := by
  rw [toHandler, flaws, List.append_assoc]
  refine congrArg (Except.mapError _) ?_
  rw [outcome_eq, alert_eq name, checkedFine_eq]
  refine unlessFlawed_bind _ _ _ _ _ (unlessFlawed_bind _ _ _ _ _ ?_)
  have hfine := unlessFlawed_bind d.fine (fun _ => .ok (d.handler name)) (d.handler name) d.fineFlaws []
    rfl
  rw [List.append_nil] at hfine
  refine Eq.trans ?_ hfine
  -- the last flaw that is looked at is the fine, which is the one of the definition
  cases d.fineFlaws <;> rfl

lemma outcomeFlaws_eq_nil_iff : d.outcomeFlaws = [] ↔
    (d.blocks = true → given d.replaceWord = none ∧ given d.replaceWhole = none) ∧
      (given d.replaceWord = none ∨ given d.replaceWhole = none) := by
  cases hb : d.blocks <;> cases hw : given d.replaceWord <;> cases ht : given d.replaceWhole <;>
    simp [outcomeFlaws, hb, hw, ht]

lemma alertFlaws_eq_nil_iff :
    d.alertFlaws = [] ↔ (given d.alertMessage ≠ none → given d.alertPermission ≠ none) := by
  simp only [alertFlaws, ite_eq_right_iff, List.cons_ne_nil, imp_false, not_and]

lemma fineFlaws_eq_nil_iff :
    d.fineFlaws = [] ↔ ∀ x ∈ d.fine, x.isFiniteNonNegative = true := by
  cases hf : d.fine <;> simp [fineFlaws, hf]

/-- Exactly the valid definitions have no flaws. -/
theorem flaws_eq_nil_iff : d.flaws = [] ↔ d.Valid := by
  simp only [flaws, List.append_eq_nil_iff, outcomeFlaws_eq_nil_iff, alertFlaws_eq_nil_iff,
    fineFlaws_eq_nil_iff]
  constructor
  · rintro ⟨⟨⟨block, replace⟩, alert⟩, fine⟩
    exact ⟨block, replace, alert, fine⟩
  · rintro ⟨block, replace, alert, fine⟩
    exact ⟨⟨⟨block, replace⟩, alert⟩, fine⟩

/-- Exactly the valid definitions give a handler, and it is the one that they describe. -/
theorem toHandler_eq_ok_iff {h : Handler} :
    d.toHandler name = .ok h ↔ d.Valid ∧ d.handler name = h := by
  rw [toHandler_eq, ← flaws_eq_nil_iff]
  cases d.flaws with
  | nil => exact ⟨fun h => ⟨rfl, Except.ok.inj h⟩, fun h => congrArg Except.ok h.2⟩
  | cons flaw rest => exact ⟨(nomatch ·), fun h => nomatch h.1⟩

/-- Any other definition is refused under its name for its first flaw. -/
theorem toHandler_eq_error_iff {e : LoadError} :
    d.toHandler name = .error e ↔ ∃ flaw, d.flaws.head? = some flaw ∧ .invalidHandler name flaw = e := by
  rw [toHandler_eq]
  cases d.flaws with
  | nil => exact ⟨(nomatch ·), fun ⟨_, h, _⟩ => nomatch h⟩
  | cons flaw rest =>
    refine ⟨fun h => ⟨flaw, rfl, Except.error.inj h⟩, ?_⟩
    rintro ⟨_, h, he⟩
    obtain rfl := Option.some.inj h
    exact congrArg Except.error he

end HandlerDefinition

/-- Whether all texts of a handler that may be absent have a property, and those that are put into the place of
others as well. -/
structure Handler.Texts (P : String → Prop) (h : Handler) : Prop where
  bypass : ∀ s ∈ h.bypass, P s
  warning : ∀ s ∈ h.warning, P s
  broadcast : ∀ s ∈ h.broadcast, P s
  alert : ∀ a ∈ h.alert, P a.message ∧ P a.permission
  console : ∀ s ∈ h.console, P s
  file : ∀ s ∈ h.file, P s
  outcome : ∀ s, h.outcome = .replaceWord s ∨ h.outcome = .replaceWhole s → P s

lemma speaks_of_given {text : Option String} {s : String} (h : given text = some s) : Speaks s :=
  (given_eq_some_iff.1 h).2

/-- All texts of a handler that is described say something. -/
theorem HandlerDefinition.texts_handler (name : String) (d : HandlerDefinition) :
    (d.handler name).Texts Speaks where
  bypass _ h := speaks_of_given h
  warning _ h := speaks_of_given h
  broadcast _ h := speaks_of_given h
  console _ h := speaks_of_given h
  file _ h := speaks_of_given h
  alert a h := by
    obtain ⟨message, hmessage, h⟩ := Option.bind_eq_some_iff.1 h
    obtain ⟨permission, hpermission, rfl⟩ := Option.map_eq_some_iff.1 h
    exact ⟨speaks_of_given hmessage, speaks_of_given hpermission⟩
  outcome s h := by
    change d.result = _ ∨ d.result = _ at h
    rw [result] at h
    split at h
    · simp at h
    · split at h
      · rename_i word hword
        obtain rfl : word = s := by simpa using h
        exact speaks_of_given hword
      · rename_i text _ htext
        obtain rfl : text = s := by simpa using h
        exact speaks_of_given htext
      · simp at h

end Moderation
