import Mathlib.Data.List.Nodup
import Mathlib.Data.List.Perm.Basic
import Moderation.Proofs.Rule.Block
import Moderation.Proofs.Text.Split

/-!
The order of directives. Directives about different fields may change places, and the directives of a block
that builds a rule are about different fields. So the rule is the same in whatever order its lines
stand, and there is one in every order or in none.
-/
namespace Moderation
open Moderation.Text

/-! ### Directives that change places -/

lemma insertSorted_comm {key key' : String} (hne : key ≠ key') (value value' : String)
    (l : List (String × String)) :
    insertSorted key value (insertSorted key' value' l) =
      insertSorted key' value' (insertSorted key value l) := by
  induction l with
  | nil => grind [insertSorted]
  | cons e r ih => grind [insertSorted]

lemma PacketRule.set_comm {d e : PacketDirective} (hne : d.field ≠ e.field) (p : PacketRule) :
    (p.set d).set e = (p.set e).set d := by
  cases d with
  | rewriteIn world text =>
    cases e with
    | rewriteIn world' text' =>
      have hworld : world' ≠ world := fun h => hne (by rw [PacketDirective.field, PacketDirective.field, h])
      simp only [set, insertSorted_comm hworld]
    | _ => rfl
  | _ => cases e <;> first | rfl | exact absurd rfl hne

/-- Directives about different fields may be added in either order. -/
lemma Draft.set_comm {d e : Directive} (hne : d.field ≠ e.field) (r : Draft) :
    (r.set d).set e = (r.set e).set d := by
  cases d with
  | packet d =>
    cases e with
    | packet e =>
      have hfield : d.field ≠ e.field := fun h => hne (congrArg Field.packet h)
      simp only [set, Option.getD_some, PacketRule.set_comm hfield]
    | _ => rfl
  | _ => cases e <;> first | rfl | exact absurd rfl hne

/-- Directives that are all about different fields may be added in any order. -/
theorem Draft.foldl_set_of_perm {ds es : List Directive} (h : ds.Perm es)
    (hnodup : (ds.map (·.field)).Nodup) (r : Draft) : ds.foldl set r = es.foldl set r := by
  refine h.foldl_eq' (fun d hd e he s => ?_) r
  by_cases hde : d = e
  · rw [hde]
  · exact set_comm (fun hf => hde (List.inj_on_of_nodup_map hnodup hd he hf)) s

/-! ### Blocks with lines in another order -/

section Blocks
variable {c : Category} {handlers : Registry} {b b' : Block} {ls ls' : List Line} {ds : List Directive}

/-- Lines in another order are read as the same directives in another order. -/
lemma Category.Reads.of_perm (h : c.Reads handlers ls ds)
    (hperm : (ls'.map (·.text)).Perm (ls.map (·.text))) :
    ∃ es, c.Reads handlers ls' es ∧ es.Perm ds := by
  obtain ⟨hform, hnodup⟩ := h
  obtain ⟨es, hform', hes⟩ := List.perm_comp_forall₂ hperm (List.forall₂_map_left_iff.2 hform)
  exact ⟨es, ⟨List.forall₂_map_left_iff.1 hform', (hes.map _).nodup_iff.2 hnodup⟩, hes⟩

/-- Two blocks with one pattern and the same lines, in any order and with any numbers. -/
def Block.Shuffles (b b' : Block) : Prop :=
  b.pattern = b'.pattern ∧ (b.body.map (·.text)).Perm (b'.body.map (·.text))

lemma Block.Shuffles.symm (h : b.Shuffles b') : b'.Shuffles b := ⟨h.1.symm, h.2.symm⟩

lemma Block.Shuffles.builds {r : Rule} (h : b.Shuffles b') (hb : b.Builds c handlers r) :
    b'.Builds c handlers r := by
  obtain ⟨ds, hds, rfl⟩ := hb
  obtain ⟨es, hes, hperm⟩ := hds.of_perm h.2.symm
  refine ⟨es, hes, ?_⟩
  rw [draft, draft, h.1, Draft.foldl_set_of_perm hperm hes.2]

lemma Block.Shuffles.builds_iff {r : Rule} (h : b.Shuffles b') :
    b.Builds c handlers r ↔ b'.Builds c handlers r := ⟨h.builds, h.symm.builds⟩

/-- Files whose blocks are the same up to the order of the lines in each of them have the same rules. -/
theorem readRules_eq_ok_iff_of_shuffles (c : Category) (handlers : Registry)
    {source source' : String} {bs bs' : List Block}
    (hs : Splits (linesOf source) [] bs) (hs' : Splits (linesOf source') [] bs')
    (h : List.Forall₂ Block.Shuffles bs bs') (rules : List Rule) :
    readRules c handlers source = .ok rules ↔ readRules c handlers source' = .ok rules := by
  have hbuilds (rules : List Rule) : List.Forall₂ (Block.Builds c handlers) bs rules ↔
      List.Forall₂ (Block.Builds c handlers) bs' rules := by
    clear hs hs'
    induction h generalizing rules with
    | nil => rfl
    | cons hb _ ih => simp only [List.forall₂_cons_left_iff, hb.builds_iff, ih]
  rw [hs.readRules_eq_ok_iff, hs'.readRules_eq_ok_iff, hbuilds]

end Blocks

/-! ### Files of one block -/

/-- The text of a file with given lines. -/
def fileOf (ls : List String) : String := .ofList (join ['\n'] (ls.map String.toList))

lemma map_text_linesOf {ls : List String} (hne : ls ≠ []) (hls : ∀ l ∈ ls, '\n' ∉ l.toList) :
    (linesOf (fileOf ls)).map (·.text) = (ls.map trimmed).filter fun t => !saysNothing t := by
  have hsplit : splitOn '\n' (fileOf ls).toList = ls.map String.toList := by
    rw [fileOf, String.toList_ofList]
    exact splitOn_join (by simpa using hne) (by simpa using hls)
  have htrimmed : (ls.map String.toList).map (fun l => String.ofList (trim l)) = ls.map trimmed := by
    simp [trimmed]
  have hnumbered : ((ls.map trimmed).mapIdx fun i text => (⟨i + 1, text⟩ : Line)).map (·.text) =
      ls.map trimmed :=
    List.ext_getElem (by simp) (by simp)
  simp only [linesOf, hsplit, htrimmed]
  conv_rhs => rw [← hnumbered, List.filter_map]
  rfl

lemma splits_fileOf {opening pattern : String} {ls : List String} (hline : '\n' ∉ opening.toList)
    (hopening : after Progress.opening (trimmed opening) = some pattern)
    (hls : ∀ l ∈ ls, '\n' ∉ l.toList ∧ after Progress.opening (trimmed l) = none) :
    ∃ b, Splits (linesOf (fileOf (opening :: ls))) [] [b] ∧ b.pattern = pattern ∧
      b.body.map (·.text) = (ls.map trimmed).filter fun t => !saysNothing t := by
  have htexts := map_text_linesOf (List.cons_ne_nil opening ls)
    (List.forall_mem_cons.2 ⟨hline, fun l hl => (hls l hl).1⟩)
  have hspeaks : saysNothing (trimmed opening) = false := by
    rw [after_eq_some_iff.1 hopening]
    simp [saysNothing, beginsWith, Progress.opening, List.isPrefixOf]
  rw [List.map_cons, List.filter_cons_of_pos (by simp [hspeaks])] at htexts
  obtain ⟨head, body, hlines, hhead, hbody⟩ := List.map_eq_cons_iff.1 htexts
  refine ⟨⟨head, pattern, body⟩, ⟨by simp [hlines], by simp, ?_, ?_⟩, rfl, hbody⟩
  · simpa [hhead] using hopening
  · suffices ∀ l ∈ body, after Progress.opening l.text = none by simpa
    intro l hl
    have hl := List.mem_map_of_mem (f := (·.text)) hl
    rw [hbody] at hl
    obtain ⟨raw, hraw, he⟩ := List.mem_map.1 (List.mem_of_mem_filter hl)
    rw [← he]
    exact (hls raw hraw).2

/-- The lines after the one that opens a rule may stand in any order. Either no order is read, or all are read
as the same rule, with all that is written about it. -/
theorem readRules_any_order (c : Category) (handlers : Registry) (opening : String)
    (ls ls' : List String) (hline : '\n' ∉ opening.toList)
    (hopening : (after Progress.opening (trimmed opening)).isSome = true)
    (hls : ∀ l ∈ ls, '\n' ∉ l.toList ∧ after Progress.opening (trimmed l) = none)
    (hperm : ls.Perm ls') :
    ((∃ rules, readRules c handlers (fileOf (opening :: ls)) = .ok rules) ↔
      ∃ rules, readRules c handlers (fileOf (opening :: ls')) = .ok rules) ∧
    ∀ rules rules', readRules c handlers (fileOf (opening :: ls)) = .ok rules →
      readRules c handlers (fileOf (opening :: ls')) = .ok rules' → rules = rules' := by
  obtain ⟨pattern, hpattern⟩ := Option.isSome_iff_exists.1 hopening
  obtain ⟨b, hs, hb, hbody⟩ := splits_fileOf hline hpattern hls
  obtain ⟨b', hs', hb', hbody'⟩ := splits_fileOf hline hpattern fun l hl => hls l (hperm.mem_iff.2 hl)
  have hshuffles : b.Shuffles b' := by
    refine ⟨hb.trans hb'.symm, ?_⟩
    rw [hbody, hbody']
    exact (hperm.map trimmed).filter _
  have hsame := readRules_eq_ok_iff_of_shuffles c handlers hs hs' (.cons hshuffles .nil)
  refine ⟨exists_congr hsame, fun rules rules' h h' => ?_⟩
  exact Except.ok.inj (((hsame rules).1 h).symm.trans h')

/-- Rewrites for two worlds, with a comment between them, are the same in any order. -/
theorem readRules_any_order_worlds :
    let ls := ["then rewritein nether none", "# worlds", "then rewritein end Hi | all", "  dont verbose"]
    let ls' := ["  dont verbose", "then rewritein end Hi | all", "then rewritein nether none", "# worlds"]
    let rule : Rule :=
      { pattern := "hello"
        packet := some { rewriteIn := [("end", "Hi | all"), ("nether", "none")], quiet := true } }
    ls.Perm ls' ∧
      readRules .packet {} (fileOf ("match hello" :: ls)) = .ok [rule] ∧
      readRules .packet {} (fileOf ("match hello" :: ls')) = .ok [rule] := by
  intro ls ls' rule
  have hperm : ls.Perm ls' := by decide
  have hread : readRules .packet {} (fileOf ("match hello" :: ls)) = .ok [rule] := by decide +kernel
  obtain ⟨hiff, hsame⟩ := readRules_any_order .packet {} "match hello" ls ls' (by decide)
    (by decide +kernel) (by decide +kernel) hperm
  obtain ⟨rules', hread'⟩ := hiff.1 ⟨_, hread⟩
  refine ⟨hperm, hread, ?_⟩
  rw [hread', ← hsame _ _ hread hread']

end Moderation
