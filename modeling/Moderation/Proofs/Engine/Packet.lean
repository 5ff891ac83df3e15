import Moderation.Packet.Rewrite
import Moderation.Proofs.Engine.Cache

/-!
Packets text by text. The rules rewrite the texts of a tree from first to last and put them back in
their places, and nothing that was compiled before has any influence.
-/
namespace Moderation

namespace Tree

mutual

/-- A tree with other texts in the places of its own. -/
def withTexts : Tree → List String → Tree
  | .atom a, _ => .atom a
  | .text s, texts => .text (texts.headD s)
  | .list items, texts => .list (itemsWithTexts items texts)
  | .object entries, texts => .object (entriesWithTexts entries texts)

/-- The items of a list with other texts. -/
def itemsWithTexts : List Tree → List String → List Tree
  | [], _ => []
  | t :: ts, texts =>
    t.withTexts (texts.take t.texts.length) :: itemsWithTexts ts (texts.drop t.texts.length)

/-- The entries of an object with other texts. -/
def entriesWithTexts : List (String × Tree) → List String → List (String × Tree)
  | [], _ => []
  | (k, t) :: es, texts =>
    (k, t.withTexts (texts.take t.texts.length)) ::
      entriesWithTexts es (texts.drop t.texts.length)

end

end Tree

namespace Engine.Context
variable (ctx : Context) (rules : RuleSet) (actor : Actor)

/-- What the rules make of texts one after the other; nothing if one of them holds the packet back,
and then the texts after it are not looked at. -/
def rewriteTexts : List String → Work (Option (List String))
  | [] => pure (some [])
  | s :: ss => do
    match ← ctx.rewriteLeaf rules actor s with
    | none => return none
    | some s => return (← rewriteTexts ss).map (s :: ·)

variable {ctx rules actor} {state : State}

lemma rewriteTexts_cons_of_none {s : String}
    (h : (ctx.rewriteLeaf rules actor s state).value = none) (ss : List String) :
    ctx.rewriteTexts rules actor (s :: ss) state =
      ⟨none, (ctx.rewriteLeaf rules actor s state).state,
        (ctx.rewriteLeaf rules actor s state).effects⟩ := by
  simp [rewriteTexts, h]

lemma rewriteTexts_cons_of_some {s s' : String}
    (h : (ctx.rewriteLeaf rules actor s state).value = some s') (ss : List String) :
    ctx.rewriteTexts rules actor (s :: ss) state =
      let a := ctx.rewriteLeaf rules actor s state
      let b := ctx.rewriteTexts rules actor ss a.state
      ⟨b.value.map (s' :: ·), b.state, a.effects ++ b.effects⟩ := by
  simp [rewriteTexts, h]

/-- Each text is rewritten to one text. -/
theorem length_of_rewriteTexts {ss ts : List String}
    (h : (ctx.rewriteTexts rules actor ss state).value = some ts) : ts.length = ss.length := by
  induction ss generalizing ts state with
  | nil =>
    obtain rfl : [] = ts := Option.some.inj h
    rfl
  | cons s ss ih =>
    cases hs : (ctx.rewriteLeaf rules actor s state).value with
    | none => simp [rewriteTexts_cons_of_none hs] at h
    | some s' =>
      rw [rewriteTexts_cons_of_some hs] at h
      obtain ⟨ts', ht, rfl⟩ := Option.map_eq_some_iff.1 h
      simp [ih ht]

/-- Once a packet is held back, nothing is looked at any more. -/
theorem rewriteTexts_append_of_none {ss : List String}
    (h : (ctx.rewriteTexts rules actor ss state).value = none) (rest : List String) :
    ctx.rewriteTexts rules actor (ss ++ rest) state = ctx.rewriteTexts rules actor ss state := by
  induction ss generalizing state with
  | nil => simp [rewriteTexts] at h
  | cons s ss ih =>
    rw [List.cons_append]
    cases hs : (ctx.rewriteLeaf rules actor s state).value with
    | none => rw [rewriteTexts_cons_of_none hs, rewriteTexts_cons_of_none hs]
    | some s' =>
      rw [rewriteTexts_cons_of_some hs] at h
      simp only [rewriteTexts_cons_of_some hs, ih (Option.map_eq_none_iff.1 h)]

/-- Texts after texts that were rewritten. -/
theorem rewriteTexts_append_of_some {ss ts : List String}
    (h : (ctx.rewriteTexts rules actor ss state).value = some ts) (rest : List String) :
    ctx.rewriteTexts rules actor (ss ++ rest) state =
      let a := ctx.rewriteTexts rules actor ss state
      let b := ctx.rewriteTexts rules actor rest a.state
      ⟨b.value.map (ts ++ ·), b.state, a.effects ++ b.effects⟩ := by
  induction ss generalizing ts state with
  | nil =>
    obtain rfl : [] = ts := Option.some.inj h
    simp [rewriteTexts]
  | cons s ss ih =>
    rw [List.cons_append]
    cases hs : (ctx.rewriteLeaf rules actor s state).value with
    | none => simp [rewriteTexts_cons_of_none hs] at h
    | some s' =>
      rw [rewriteTexts_cons_of_some hs] at h
      obtain ⟨ts', ht, rfl⟩ := Option.map_eq_some_iff.1 h
      simp [rewriteTexts_cons_of_some hs, ih ht, Function.comp_def]

section Tree
variable (ctx rules actor)

/-- What becomes of texts, put in their places by `put`. -/
def rewriteAll {α : Type} (texts : List String) (put : List String → α) : Work (Option α) :=
  Option.map put <$> ctx.rewriteTexts rules actor texts

lemma rewriteAll_append {α β γ : Type} (ss rest : List String) (f : α → β → γ)
    (put : List String → α) (put' : List String → β) :
    ctx.rewriteAll rules actor (ss ++ rest)
        (fun ts => f (put (ts.take ss.length)) (put' (ts.drop ss.length))) = (do
      match ← ctx.rewriteAll rules actor ss put with
      | none => return none
      | some a => return (← ctx.rewriteAll rules actor rest put').map (f a)) := by
  funext state
  cases h : (ctx.rewriteTexts rules actor ss state).value with
  | none => simp [rewriteAll, rewriteTexts_append_of_none h, h]
  | some ts =>
    have hl := length_of_rewriteTexts h
    simp [rewriteAll, rewriteTexts_append_of_some h, h, ← hl, Function.comp_def]

mutual

/-- A tree is rewritten text by text. -/
theorem rewriteTree_eq (t : Tree) :
    ctx.rewriteTree rules actor t = ctx.rewriteAll rules actor t.texts t.withTexts := by
  funext state
  cases t with
  | atom a => simp [rewriteTree, rewriteAll, rewriteTexts, Tree.withTexts]
  | text s =>
    cases hs : (ctx.rewriteLeaf rules actor s state).value with
    | none => simp [rewriteTree, rewriteAll, rewriteTexts, hs]
    | some s' => simp [rewriteTree, rewriteAll, rewriteTexts, hs, Tree.withTexts]
  | list items =>
    simp [rewriteTree, rewriteAll, rewriteItems_eq items, Tree.texts, Tree.withTexts,
      Function.comp_def]
  | object entries =>
    simp [rewriteTree, rewriteAll, rewriteEntries_eq entries, Tree.texts, Tree.withTexts,
      Function.comp_def]

/-- The items of a list are rewritten text by text. -/
theorem rewriteItems_eq (items : List Tree) :
    ctx.rewriteItems rules actor items =
      ctx.rewriteAll rules actor (Tree.textsOfItems items) (Tree.itemsWithTexts items) := by
  cases items with
  | nil =>
    funext state
    simp [rewriteItems, rewriteAll, rewriteTexts, Tree.textsOfItems, Tree.itemsWithTexts]
  | cons t ts =>
    have hput : Tree.itemsWithTexts (t :: ts) = fun texts =>
        t.withTexts (texts.take t.texts.length) ::
          Tree.itemsWithTexts ts (texts.drop t.texts.length) := by
      funext texts
      rw [Tree.itemsWithTexts]
    rw [rewriteItems, rewriteTree_eq t, rewriteItems_eq ts, Tree.textsOfItems, hput,
      rewriteAll_append _ _ _ _ _ List.cons]
    exact bind_congr fun rewritten => by cases rewritten <;> rfl

/-- The entries of an object are rewritten text by text. -/
theorem rewriteEntries_eq (entries : List (String × Tree)) :
    ctx.rewriteEntries rules actor entries =
      ctx.rewriteAll rules actor (Tree.textsOfEntries entries)
        (Tree.entriesWithTexts entries) := by
  cases entries with
  | nil =>
    funext state
    simp [rewriteEntries, rewriteAll, rewriteTexts, Tree.textsOfEntries, Tree.entriesWithTexts]
  | cons e es =>
    obtain ⟨k, t⟩ := e
    have hput : Tree.entriesWithTexts ((k, t) :: es) = fun texts =>
        (k, t.withTexts (texts.take t.texts.length)) ::
          Tree.entriesWithTexts es (texts.drop t.texts.length) := by
      funext texts
      rw [Tree.entriesWithTexts]
    rw [rewriteEntries, rewriteTree_eq t, rewriteEntries_eq es, Tree.textsOfEntries, hput,
      rewriteAll_append _ _ _ _ _ fun t es => (k, t) :: es]
    exact bind_congr fun rewritten => by cases rewritten <;> rfl

end

end Tree

/-! ### Independence of what was compiled -/

theorem ignoresCache_rewriteText (pace : Pace) (r : Rule) (p : PacketRule) (text : String) :
    (ctx.rewriteText pace r p actor text).IgnoresCache ctx.budget := by
  refine .ite (.pure _) ?_
  cases p.rewriteIn.lookup actor.world with
  | some rewrite => exact .pure _
  | none =>
    cases p.rewrite with
    | some rewrite => exact .pure _
    | none =>
      cases p.replace with
      | some replacement => exact (Budget.ignoresCache_replace ..).bind fun _ => .pure _
      | none => exact .pure _

theorem ignoresCache_firePacket (pace : Pace) (r : Rule) (p : PacketRule) (text : String) :
    (ctx.firePacket pace r p actor text).IgnoresCache ctx.budget := by
  refine .bind (.emitAll _) fun _ => (ignoresCache_rewriteText ..).bind fun rewritten => ?_
  cases rewritten with
  | none => exact .bind (.emitAll _) fun _ => .pure _
  | some s => exact .bind (.emitAll _) fun _ => .pure _

variable {settled : Prop}

/-- Packets have nothing for the dice to decide. -/
theorem respects_tryPacketRule (r : Rule) (text : String) :
    (ctx.tryPacketRule actor r text).Respects ctx.budget settled := by
  unfold tryPacketRule
  cases r.packet with
  | none => exact .pure _
  | some p =>
    refine .draw_bind (fun chance => ?_) fun _ _ _ _ => rfl
    refine (ignoresCache_ruleMatches ..).respects.bind fun found => .ite ?_ (.pure _)
    exact (ignoresCache_firePacket ..).respects

theorem respects_tryPacketRules (rs : List Rule) (text : String) :
    (ctx.tryPacketRules actor rs text).Respects ctx.budget settled := by
  induction rs generalizing text with
  | nil => exact .pure _
  | cons r rs ih =>
    refine (respects_tryPacketRule ..).bind fun rewritten => ?_
    cases rewritten with
    | none => exact .pure _
    | some s => exact ih s

theorem respects_rewriteLeaf (text : String) :
    (ctx.rewriteLeaf rules actor text).Respects ctx.budget settled :=
  .ite (.pure _) (respects_tryPacketRules ..)

theorem respects_rewriteTexts (ss : List String) :
    (ctx.rewriteTexts rules actor ss).Respects ctx.budget settled := by
  induction ss with
  | nil => exact .pure _
  | cons s ss ih =>
    refine (respects_rewriteLeaf s).bind fun rewritten => ?_
    cases rewritten with
    | none => exact .pure _
    | some s => exact ih.bind fun _ => .pure _

end Engine.Context

end Moderation
