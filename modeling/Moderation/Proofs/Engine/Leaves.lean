import Moderation.Proofs.Engine.Isolation
import Moderation.Proofs.Tree.Texts

/-!
Packets and their texts. A packet is held back exactly if one of its texts would be held back alone, and
otherwise it keeps its shape and each text becomes what it would become alone. So it makes no difference
in which order the entries of its objects are visited.
-/
namespace Moderation

namespace Tree
variable (f : String → String)

mutual

/-- The changed texts of a tree put in their places are the tree with each text changed. -/
theorem withTexts_map (t : Tree) : t.withTexts (t.texts.map f) = t.mapTexts f := by
  cases t with
  | atom a => rw [withTexts, mapTexts]
  | text s => simp [withTexts]
  | list items => rw [withTexts, mapTexts, texts, itemsWithTexts_map]
  | object entries => rw [withTexts, mapTexts, texts, entriesWithTexts_map]

lemma itemsWithTexts_map (items : List Tree) :
    itemsWithTexts items ((textsOfItems items).map f) = mapItems f items := by
  cases items with
  | nil => rw [itemsWithTexts, mapItems]
  | cons t ts =>
    have hlen : (t.texts.map f).length = t.texts.length := List.length_map f
    rw [itemsWithTexts, mapItems, textsOfItems, List.map_append, List.take_left' hlen,
      List.drop_left' hlen, withTexts_map, itemsWithTexts_map]

lemma entriesWithTexts_map (entries : List (String × Tree)) :
    entriesWithTexts entries ((textsOfEntries entries).map f) = mapEntries f entries := by
  cases entries with
  | nil => rw [entriesWithTexts, mapEntries]
  | cons e es =>
    obtain ⟨k, t⟩ := e
    have hlen : (t.texts.map f).length = t.texts.length := List.length_map f
    rw [entriesWithTexts, mapEntries, textsOfEntries, List.map_append, List.take_left' hlen,
      List.drop_left' hlen, withTexts_map, entriesWithTexts_map]

end

/-- A tree with its own texts is what it was. -/
theorem withTexts_texts (t : Tree) : t.withTexts t.texts = t := by
  simpa [mapTexts_id] using withTexts_map id t

end Tree

namespace Engine

namespace Context
variable (ctx : Context) (rules : RuleSet) (actor : Actor) {state : State}

/-- What becomes of a text that is alone in its packet. -/
def leaf (text : String) : Rewritten := (ctx.rewriteLeaf rules actor text {}).value

/-- Texts after each other become what they become alone, whatever was compiled for those before. -/
theorem value_rewriteTexts (hs : state.Steady ctx.budget) (texts : List String) :
    (ctx.rewriteTexts rules actor texts state).value =
      if ∃ text ∈ texts, ctx.leaf rules actor text = none then none
      else some (texts.map fun text => (ctx.leaf rules actor text).getD text) := by
  induction texts generalizing state with
  | nil => simp [rewriteTexts]
  | cons s ss ih =>
    have hleaf : (ctx.rewriteLeaf rules actor s).Respects ctx.budget True := respects_rewriteLeaf s
    have hvalue : (ctx.rewriteLeaf rules actor s state).value = ctx.leaf rules actor s :=
      hleaf.value_eq (hs.alike (State.steady_nil _))
    have hafter : (ctx.rewriteLeaf rules actor s state).state.Steady ctx.budget := hleaf.steady hs
    cases hl : ctx.leaf rules actor s with
    | none => simp [rewriteTexts_cons_of_none (hvalue.trans hl), hl]
    | some s' =>
      have hrest : (∃ text ∈ s :: ss, ctx.leaf rules actor text = none) ↔
          ∃ text ∈ ss, ctx.leaf rules actor text = none := by
        simp [hl]
      rw [rewriteTexts_cons_of_some (hvalue.trans hl)]
      simp only [ih hafter, hrest, List.map_cons, hl, Option.getD_some]
      split <;> rfl

/-- A packet becomes what its texts become alone. -/
theorem value_rewritePacket (hs : state.Steady ctx.budget) (tree : Tree) :
    (ctx.rewritePacket rules actor tree state).value =
      if ∃ text ∈ tree.texts, ctx.leaf rules actor text = none then none
      else some (tree.mapTexts fun text => (ctx.leaf rules actor text).getD text) := by
  have htexts : (ctx.rewritePacket rules actor tree state).value =
      (ctx.rewriteTexts rules actor tree.texts state).value.map tree.withTexts := by
    rw [rewritePacket_eq, Work.bind_apply]
    cases (ctx.rewriteTexts rules actor tree.texts state).value <;> rfl
  rw [htexts, value_rewriteTexts ctx rules actor hs]
  split
  · rfl
  · rw [Option.map_some, Tree.withTexts_map]

end Context

namespace Server
variable {s : Server}

lemma rewriteLeaf_eq_leaf (hs : s.Steady) (actor : Actor) (text : String) :
    (s.rewriteLeaf actor text).1 = s.context.leaf s.rules actor text :=
  (Context.respects_rewriteLeaf text).value_eq (hs.alike (State.steady_nil _))

/-- A packet is held back exactly if one of its texts, wherever it stands, is held back. Otherwise it
keeps its shape, and each text becomes what it becomes alone. Packets that differ only in the order of
the entries of their objects are both held back, or they become packets that differ only in that. -/
theorem rewritePacket_text_by_text (hs : s.Steady) (actor : Actor) (tree : Tree) :
    let leaf (text : String) := (s.rewriteLeaf actor text).1
    let packet (tree : Tree) := (s.rewritePacket actor tree).1
    (packet tree = none ↔ ∃ text ∈ tree.texts, leaf text = none) ∧
    (packet tree ≠ none → packet tree = some (tree.mapTexts fun text => (leaf text).getD text)) ∧
    ∀ tree', tree.Reordered tree' → Option.Rel Tree.Reordered (packet tree) (packet tree') := by
  intro leaf packet
  have hleaf : leaf = s.context.leaf s.rules actor := funext (rewriteLeaf_eq_leaf hs actor)
  have hpacket (t : Tree) : packet t = if ∃ text ∈ t.texts, leaf text = none then none
      else some (t.mapTexts fun text => (leaf text).getD text) := by
    rw [hleaf]
    exact s.context.value_rewritePacket s.rules actor hs t
  refine ⟨?_, fun h => ?_, fun tree' h => ?_⟩
  · rw [hpacket]
    split <;> simp_all
  · rw [hpacket] at h ⊢
    split at h
    · contradiction
    · rename_i hn
      rw [if_neg hn]
  · -- both have the same texts, in another order
    have hmem (text : String) : text ∈ tree'.texts ↔ text ∈ tree.texts := h.texts_perm.symm.mem_iff
    rw [hpacket, hpacket]
    simp only [hmem]
    split
    · exact .none
    · exact .some (h.mapTexts _)

/-- A text deep in a packet is rewritten, from whichever end the packet is visited. -/
theorem rewritePacket_text_by_text_from_both_ends :
    let steve : Actor := ⟨"steve", "world", .survival, [], none⟩
    let server : Server := {
      settings := {}
      rules := ⟨[(.packet, [{ pattern := "welcome", packet := some { rewrite := some "Hello" } },
        { pattern := "spoiler", packet := some { denies := true } }])]⟩
      audit := .memory []
      time := "" }
    let extra (text : String) : String × Tree := ("extra", .list [.text text, .atom .null])
    let last : String × Tree := ("text", .text "fine")
    (server.rewritePacket steve (.object [extra "a spoiler", last])).1 = none ∧
    (server.rewritePacket steve (.object [extra "welcome", last])).1 =
      some (.object [extra "Hello", last]) ∧
    ∃ result, (server.rewritePacket steve (.object [last, extra "welcome"])).1 = some result ∧
      Tree.Reordered (.object [extra "Hello", last]) result := by
  intro steve server extra last
  have hs : server.Steady := State.steady_nil _
  have hwelcome : (server.rewriteLeaf steve "welcome").1 = some "Hello" := by decide +kernel
  have hfine : (server.rewriteLeaf steve "fine").1 = some "fine" := by decide +kernel
  have hspoiler : (server.rewriteLeaf steve "a spoiler").1 = none := by decide +kernel
  obtain ⟨hnone, hsome, hreordered⟩ :=
    rewritePacket_text_by_text hs steve (.object [extra "welcome", last])
  beta_reduce at hnone hsome hreordered
  have hgoes : (server.rewritePacket steve (.object [extra "welcome", last])).1 =
      some (.object [extra "Hello", last]) := by
    rw [hsome fun h => by simpa [extra, last, hwelcome, hfine] using hnone.1 h]
    simp [extra, last, hwelcome, hfine]
  refine ⟨?_, hgoes, ?_⟩
  · rw [(rewritePacket_text_by_text hs steve _).1]
    exact ⟨"a spoiler", by simp [extra], hspoiler⟩
  · have hrel := hreordered (.object [last, extra "welcome"]) (.entries (.swap ..))
    rw [hgoes] at hrel
    generalize (server.rewritePacket steve (.object [last, extra "welcome"])).1 = packet at hrel ⊢
    cases hrel with
    | some h => exact ⟨_, rfl, h⟩

end Server

end Engine

end Moderation
