import Moderation.Proofs.Engine.Cancellation
import Moderation.Proofs.Engine.Packet

/-!
What does not depend on the surroundings. The players online decide who is told; what becomes of a text
does not depend on them.
-/
namespace Moderation.Engine

namespace Work
variable {α β : Type}

/-- Work that comes to the same value and leaves the same state. Its effects may differ. -/
structure Agrees (w v : Work α) : Prop where
  value_eq : ∀ state, (w state).value = (v state).value
  state_eq : ∀ state, (w state).state = (v state).state

namespace Agrees

theorem refl (w : Work α) : w.Agrees w := ⟨fun _ => rfl, fun _ => rfl⟩

theorem emitAll (es fs : List Effect) : Agrees (.emitAll es) (.emitAll fs) :=
  ⟨fun _ => rfl, fun _ => rfl⟩

theorem bind {w v : Work α} {f g : α → Work β} (hw : w.Agrees v) (hf : ∀ a, (f a).Agrees (g a)) :
    (w >>= f).Agrees (v >>= g) where
  value_eq state := by
    simp only [bind_apply, hw.value_eq, hw.state_eq, (hf _).value_eq]
  state_eq state := by
    simp only [bind_apply, hw.value_eq, hw.state_eq, (hf _).state_eq]

theorem map {w v : Work α} (hw : w.Agrees v) (f : α → β) : (f <$> w).Agrees (f <$> v) := by
  rw [map_eq_pure_bind, map_eq_pure_bind]
  exact hw.bind fun _ => .refl _

theorem ite {w w' v v' : Work α} {p : Prop} [Decidable p] (hw : w.Agrees w') (hv : v.Agrees v') :
    (if p then w else v).Agrees (if p then w' else v') := by
  split
  · exact hw
  · exact hv

end Agrees

end Work

namespace Context
open Work (Agrees)
variable {ctx ctx' : Context} {kind : EventKind} {actor : Actor} {r : Rule}

/-- Contexts that differ in the players online only. -/
structure Same (ctx ctx' : Context) : Prop where
  settings : ctx.settings = ctx'.settings
  library : ctx.library = ctx'.library

lemma Same.refl (ctx : Context) : ctx.Same ctx := ⟨rfl, rfl⟩

lemma Same.trans {c : Context} (h : ctx.Same ctx') (h' : ctx'.Same c) : ctx.Same c :=
  ⟨h.settings.trans h'.settings, h.library.trans h'.library⟩

lemma Same.budget (h : ctx.Same ctx') : ctx.budget = ctx'.budget := by
  simp only [Context.budget, h.settings, h.library]

lemma ruleMatches_eq (h : ctx.Same ctx') (pace : Pace) (text : String) :
    ctx.ruleMatches pace r text = ctx'.ruleMatches pace r text := by
  simp only [ruleMatches, preprocess, eraseIgnored, h.budget]

lemma agrees_handled (h : ctx.Same ctx') (pace : Pace) (p : Pass) :
    (ctx.handled pace r kind actor p).Agrees (ctx'.handled pace r kind actor p) := by
  unfold handled
  cases r.handler with
  | none => exact .refl _
  | some handler =>
    simp only [applyHandler, handlerText, h.budget, h.settings]
    exact .ite (.refl _) (.bind (.emitAll ..) fun _ => .refl _)

lemma agrees_fire (h : ctx.Same ctx') (chance : Chance) (p : Pass) :
    (ctx.fire chance r kind actor p).Agrees (ctx'.fire chance r kind actor p) := by
  simp only [fire, replaced, h.budget]
  exact .bind (.emitAll ..) fun _ => .bind (agrees_handled h ..) fun _ => .refl _

/-- What a rule makes of a text does not depend on the players online. -/
theorem agrees_tryRule (h : ctx.Same ctx') (p : Pass) :
    (ctx.tryRule kind actor r p).Agrees (ctx'.tryRule kind actor r p) := by
  simp only [tryRule, ruleMatches_eq h]
  exact .ite (.refl _) (.bind (.refl _) fun _ => .bind (.refl _) fun _ =>
    .ite (agrees_fire h ..) (.refl _))

lemma tryPacketRule_eq (h : ctx.Same ctx') (text : String) :
    ctx.tryPacketRule actor r text = ctx'.tryPacketRule actor r text := by
  simp only [tryPacketRule, ruleMatches_eq h, firePacket, rewriteText, matchLines, line, h.budget,
    h.settings]

/-- What the rules make of an outgoing text does not depend on the players online. -/
theorem rewriteLeaf_eq (h : ctx.Same ctx') (rules : RuleSet) (text : String) :
    ctx.rewriteLeaf rules actor text = ctx'.rewriteLeaf rules actor text := by
  have hrules (rs : List Rule) (text : String) :
      ctx.tryPacketRules actor rs text = ctx'.tryPacketRules actor rs text := by
    induction rs generalizing text with
    | nil => rfl
    | cons r rs ih => simp only [tryPacketRules, tryPacketRule_eq h, ih]
  simp only [rewriteLeaf, hrules]

end Context

end Moderation.Engine
