import Moderation.Proofs.Engine.Spans
import Moderation.Proofs.Engine.Templates
import Moderation.Proofs.Regex.Template
import Moderation.Proofs.Text.Color

/-!
Replacements with the values of their names put in. The references of a replacement to groups are
looked for after the values were put in, and so a dollar sign in a value is a reference as well. A
replacement is inserted as it is exactly if it then has no dollar sign that refers to a group or
stands before another one.
-/
namespace Moderation.Engine
open Moderation.Text

lemma dollar_notMem_colorize_fill {values : Placeholders} {template : String}
    (ht : '$' ∉ template.toList) (hv : ∀ s ∈ values.substitutions, '$' ∉ s.2.toList) :
    '$' ∉ (colorize (values.fill template)).toList := by
  intro h
  rw [toList_colorize, Placeholders.toList_fill] at h
  obtain h | h | ⟨d, hd, h⟩ := Color.mem_of_mem_translate h
  · obtain h | ⟨s, hs, h⟩ := Substitutions.mem_of_mem_inTurn h
    · exact ht h
    · obtain ⟨t, ht, rfl⟩ := List.mem_map.1 hs
      exact hv t ht h
  · exact absurd h (by decide)
  · simp [isColorCode, ← h] at hd

namespace Context

/-- What a rule or a handler inserts for a match: its replacement with the values put in, where
references to groups are expanded, those in the values as well. It stands for itself in all matches
exactly if no dollar sign in it refers to a group or stands before another one, and so at least
where neither the replacement nor a value has a dollar sign. -/
theorem replacements_expand_values (ctx : Context) (chance : Chance) (r : Rule) (actor : Actor)
    (text : String) (state : State) :
    (∀ alternative, pick chance.rolls.replacement r.replacements = some alternative →
      ctx.budget.Replaces chance.pace.replacement .keepColors r.pattern text
        (colorize ((Placeholders.of r.id actor text).fill alternative)) state
        (ctx.replaced chance r actor text state).value) ∧
    (∀ (h : Handler) (word : String), h.outcome = .replaceWord word →
      let values := (Placeholders.of r.id actor text).withHandler h.name
      ctx.budget.Replaces chance.pace.handler .normalized r.pattern text
        (colorize (values.fill word)) state
        (ctx.handlerText chance.pace h r values text state).value) ∧
    (∀ (extended : Bool) (names : List (String × Nat)) (inserted : String),
      (∀ m, Regex.expandTemplate extended names inserted.toList m = inserted.toList) ↔
        Regex.isInert extended inserted.toList = true) ∧
    (∀ (values : Placeholders) (template : String) (extended : Bool), '$' ∉ template.toList →
      (∀ s ∈ values.substitutions, '$' ∉ s.2.toList) →
      Regex.isInert extended (colorize (values.fill template)).toList = true) := by
  refine ⟨?_, ?_, ?_, ?_⟩
  · intro alternative hpick
    exact replaces_replaced hpick actor
  · intro h word hword values
    exact replaces_handlerText hword values
  · intro extended names inserted
    exact Regex.expandTemplate_eq_self_iff
  · intro values template extended ht hv
    exact Regex.isInert_of_no_dollar (dollar_notMem_colorize_fill ht hv)

/-- A price in a text is inserted as it is, since no digit stands directly behind the sign. -/
theorem replacements_expand_values_of_price :
    let ctx : Context := { settings := {}, online := [] }
    let steve : Actor := ⟨"steve", "world", .survival, [], none⟩
    let r : Rule := { pattern := "(foo)", replacements := ["[\x7bmessage\x7d]"] }
    let text := "foo for 5 $"
    let inserted := "[foo for 5 $]"
    colorize ((Placeholders.of r.id steve text).fill "[\x7bmessage\x7d]") = inserted ∧
      ctx.budget.Replaces none .keepColors r.pattern text inserted {} "[foo for 5 $] for 5 $" ∧
      ∀ names m, Regex.expandTemplate false names inserted.toList m = inserted.toList := by
  intro ctx steve r text inserted
  obtain ⟨hrule, -, hinert, -⟩ := replacements_expand_values ctx {} r steve text {}
  have hfill : colorize ((Placeholders.of r.id steve text).fill "[\x7bmessage\x7d]") =
      inserted := by decide +kernel
  have hvalue : (ctx.replaced {} r steve text {}).value = "[foo for 5 $] for 5 $" := by
    decide +kernel
  have hreplaced := hrule "[\x7bmessage\x7d]" rfl
  rw [hfill, hvalue] at hreplaced
  have hprice : Regex.isInert false inserted.toList = true := by decide +kernel
  exact ⟨hfill, hreplaced, fun names => (hinert false names inserted).2 hprice⟩

/-- A text that names a group is inserted with the text of the group. -/
theorem group_named_by_message :
    let ctx : Context := { settings := {}, online := [] }
    let steve : Actor := ⟨"steve", "world", .survival, [], none⟩
    let r : Rule := { pattern := "(foo)", replacements := ["[\x7bmessage\x7d]"] }
    let h : Handler := { name := "tidy", outcome := .replaceWord "[\x7bmessage\x7d]" }
    let values := (Placeholders.of r.id steve "foo $1").withHandler h.name
    colorize (values.fill "[\x7bmessage\x7d]") = "[foo $1]" ∧
      (ctx.replaced {} r steve "foo $1" {}).value = "[foo foo] $1" ∧
      (ctx.handlerText {} h r values "foo $1" {}).value = "[foo foo] $1" := by
  decide +kernel

end Context

end Moderation.Engine
