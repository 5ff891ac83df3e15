import Mathlib.Data.List.Nodup
import Moderation.Handler.Registry
import Moderation.Proofs.Handler.Definition
import Moderation.Proofs.Rule.Form
import Moderation.Proofs.Text.Bytes

/-!
The handlers of a document. A document is accepted exactly if each definition in it is valid, and then each
name has the handler that its definition describes. Otherwise the first invalid definition is reported,
in the order of the bytes of the names and not in that of the document.
-/
namespace Moderation
open Moderation.Yaml

/-! ### Definitions in documents -/

namespace Yaml.Value
variable {seen : List String} {entries : List (Node × Node)} {es : List (String × Value)}

lemma ofEntries?_nodup (h : ofEntries? seen entries = some es) :
    (es.map (·.1)).Nodup ∧ ∀ k ∈ es.map (·.1), k ∉ seen := by
  induction entries generalizing seen es with
  | nil =>
    obtain rfl : [] = es := by simpa [ofEntries?] using h
    simp
  | cons e rest ih =>
    obtain ⟨k, n⟩ := e
    rw [ofEntries?] at h
    split at h
    · rename_i key v hkey hv
      split at h
      · cases h
      · rename_i hfresh
        obtain ⟨tail, htail, rfl⟩ := Option.map_eq_some_iff.1 h
        obtain ⟨hnodup, hunseen⟩ := ih htail
        have hkey : key ∉ tail.map (·.1) := fun hk => hunseen key hk List.mem_cons_self
        refine ⟨List.nodup_cons.2 ⟨hkey, hnodup⟩, List.forall_mem_cons.2 ⟨by simpa using hfresh, ?_⟩⟩
        exact fun k hk hs => hunseen k hk (List.mem_cons_of_mem key hs)
    · cases h

/-- No key occurs twice in a mapping. -/
theorem nodup_of_ofText? {text : List Char} (h : ofText? text = some (.mapping es)) :
    (es.map (·.1)).Nodup := by
  obtain ⟨n, -, hn⟩ := Option.bind_eq_some_iff.1 h
  cases n with
  | scalar tag style written =>
    rw [ofNode?] at hn
    split at hn <;> cases hn
  | sequence tag items =>
    rw [ofNode?] at hn
    obtain ⟨vs, -, hvs⟩ := Option.map_eq_some_iff.1 hn
    cases hvs
  | mapping tag entries =>
    rw [ofNode?] at hn
    obtain ⟨es', hes, hmap⟩ := Option.map_eq_some_iff.1 hn
    cases hmap
    exact (ofEntries?_nodup hes).1
  | loop => cases hn

end Yaml.Value

namespace Registry

/-- The definitions of a document, under their names. A text of blanks, and a document that is null, have
none. -/
def definitions? (text : String) : Option (List (String × HandlerDefinition)) :=
  if Text.trimmed text = "" then some []
  else match Value.ofText? text.toList with
    | some .null => some []
    | some (.mapping entries) =>
      entries.mapM fun (name, v) => (HandlerDefinition.ofValue? v).map (name, ·)
    | _ => none

/-- Definitions in the order of their names. -/
def inOrder (ds : List (String × HandlerDefinition)) : List (String × HandlerDefinition) :=
  ds.mergeSort fun a b => decide (a.1 ≤ b.1)

theorem ofText_eq (file text : String) :
    ofText file text = match definitions? text with
      | some ds => ofDefinitions (inOrder ds)
      | none => .error (.yaml file) := by
  have hempty : .ok {} = ofDefinitions (inOrder []) := by
    rw [inOrder, List.mergeSort_nil]
    rfl
  simp only [ofText, definitions?]
  split
  · exact hempty
  · cases Value.ofText? text.toList with
    | none => rfl
    | some v =>
      cases v with
      | null => exact hempty
      | mapping entries => rfl
      | _ => rfl

lemma map_fst_of_mapM {entries : List (String × Value)} {ds : List (String × HandlerDefinition)}
    (h : (entries.mapM fun e => (HandlerDefinition.ofValue? e.2).map (e.1, ·)) = some ds) :
    ds.map (·.1) = entries.map (·.1) := by
  induction entries generalizing ds with
  | nil =>
    obtain rfl : [] = ds := by simpa using h
    rfl
  | cons e entries ih =>
    rw [List.mapM_cons] at h
    obtain ⟨d, hd, h⟩ := Option.bind_eq_some_iff.1 h
    obtain ⟨rest, hrest, h⟩ := Option.bind_eq_some_iff.1 h
    obtain ⟨d, -, rfl⟩ := Option.map_eq_some_iff.1 hd
    cases h
    rw [List.map_cons, List.map_cons, ih hrest]

/-- No name is defined twice in a document. -/
theorem nodup_of_definitions? {text : String} {ds : List (String × HandlerDefinition)}
    (h : definitions? text = some ds) : (ds.map (·.1)).Nodup := by
  rw [definitions?] at h
  split at h
  · cases h
    exact List.nodup_nil
  · split at h
    · cases h
      exact List.nodup_nil
    · rename_i entries hentries
      have hnames := map_fst_of_mapM h
      exact hnames ▸ Value.nodup_of_ofText? hentries
    · cases h

variable {ds : List (String × HandlerDefinition)}

lemma inOrder_perm (ds : List (String × HandlerDefinition)) : (inOrder ds).Perm ds :=
  List.mergeSort_perm ds _

lemma inOrder_pairwise (ds : List (String × HandlerDefinition)) :
    (inOrder ds).Pairwise fun a b => a.1 ≤ b.1 := by
  have hsorted : (inOrder ds).Pairwise fun a b => decide (a.1 ≤ b.1) = true :=
    List.pairwise_mergeSort
      (fun a b c hab hbc => by simpa using String.le_trans (by simpa using hab) (by simpa using hbc))
      (fun a b => by simpa using String.le_total a.1 b.1) ds
  simpa using hsorted

lemma ofDefinitions_eq (ds : List (String × HandlerDefinition)) :
    ofDefinitions ds = Except.map Registry.mk (ds.mapM fun d => d.2.toHandler d.1) := by
  change (do return ⟨← ds.mapM fun d => d.2.toHandler d.1⟩ : Except LoadError Registry) = _
  cases ds.mapM fun d => d.2.toHandler d.1 <;> rfl

/-- Definitions give handlers exactly if all of them are valid, and then each gives its own. -/
lemma ofDefinitions_eq_ok_iff {r : Registry} : ofDefinitions ds = .ok r ↔
    (∀ d ∈ ds, d.2.Valid) ∧ ds.map (fun d => d.2.handler d.1) = r.handlers := by
  have hmap : ofDefinitions ds = .ok r ↔
      (ds.mapM fun d => d.2.toHandler d.1) = .ok r.handlers := by
    rw [ofDefinitions_eq]
    obtain ⟨handlers⟩ := r
    cases ds.mapM fun d => d.2.toHandler d.1 <;> simp [Except.map]
  rw [hmap, Directive.mapM_eq_ok_iff]
  simp only [HandlerDefinition.toHandler_eq_ok_iff, List.forall₂_and_left]
  rw [← List.forall₂_map_left_iff (R := Eq), List.forall₂_eq_eq_eq]

/-- The first definition that is not valid is reported for its first flaw. -/
lemma ofDefinitions_eq_error_iff {e : LoadError} : ofDefinitions ds = .error e ↔
    ∃ before name d after flaw, ds = before ++ (name, d) :: after ∧ (∀ x ∈ before, x.2.Valid) ∧
      d.flaws.head? = some flaw ∧ .invalidHandler name flaw = e := by
  have hmap : ofDefinitions ds = .error e ↔
      (ds.mapM fun d => d.2.toHandler d.1) = .error e := by
    rw [ofDefinitions_eq]
    cases ds.mapM fun d => d.2.toHandler d.1 <;> simp [Except.map]
  rw [hmap, Directive.mapM_eq_error_iff]
  simp [HandlerDefinition.toHandler_eq_ok_iff, HandlerDefinition.toHandler_eq_error_iff]

lemma find?_map_handler (hnodup : (ds.map (·.1)).Nodup) {name : String} {d : HandlerDefinition}
    (hd : (name, d) ∈ ds) :
    find? ⟨ds.map fun d => d.2.handler d.1⟩ name = some (d.handler name) := by
  rw [find?, List.find?_map]
  cases hfind : ds.find? ((fun h : Handler => h.name == name) ∘ fun d => d.2.handler d.1) with
  | none => simpa [HandlerDefinition.handler] using List.find?_eq_none.1 hfind _ hd
  | some x =>
    have hname : x.1 = name := by simpa [HandlerDefinition.handler] using List.find?_some hfind
    have hx : x = (name, d) :=
      List.inj_on_of_nodup_map hnodup (List.mem_of_find?_eq_some hfind) hd hname
    rw [hx]
    rfl

/-- A definition that follows only valid ones in the order of names has the least name of those that are not. -/
lemma le_of_inOrder_eq {before after : List (String × HandlerDefinition)} {name : String}
    {d : HandlerDefinition} (horder : inOrder ds = before ++ (name, d) :: after)
    (hbefore : ∀ x ∈ before, x.2.Valid) : ∀ other ∈ ds, ¬other.2.Valid → name ≤ other.1 := by
  intro other hother hinvalid
  have hsorted := inOrder_pairwise ds
  rw [horder] at hsorted
  have hmem : other ∈ before ++ (name, d) :: after := horder ▸ (inOrder_perm ds).mem_iff.2 hother
  rcases List.mem_append.1 hmem with hmem | hmem
  · exact absurd (hbefore other hmem) hinvalid
  · rcases List.mem_cons.1 hmem with rfl | hmem
    · exact String.le_refl _
    · exact (List.pairwise_cons.1 (List.pairwise_append.1 hsorted).2.1).1 other hmem

/-- A document is accepted exactly if all its definitions are valid. Then it has one handler for each name, the one
that is described under it, with no text that says nothing. Otherwise the definition that is reported is one
that is not valid, and of these the one whose name has the least bytes. -/
theorem ofText_of_definitions? {file text : String} (h : definitions? text = some ds) :
    ((∃ r, ofText file text = .ok r) ↔ ∀ d ∈ ds, d.2.Valid) ∧
      (∀ r, ofText file text = .ok r →
        r.names.Perm (ds.map (·.1)) ∧ r.names.Nodup ∧
          ∀ name d, (name, d) ∈ ds →
            r.find? name = some (d.handler name) ∧ (d.handler name).Texts Speaks) ∧
      ∀ e, ofText file text = .error e →
        ∃ name d flaw, (name, d) ∈ ds ∧ ¬d.Valid ∧ d.flaws.head? = some flaw ∧
          e = .invalidHandler name flaw ∧
          ∀ other ∈ ds, ¬other.2.Valid → Text.bytes name ≤ Text.bytes other.1 := by
  have hperm := inOrder_perm ds
  have hnodup : ((inOrder ds).map (·.1)).Nodup :=
    (hperm.map _).nodup_iff.2 (nodup_of_definitions? h)
  have hvalid : (∀ d ∈ inOrder ds, d.2.Valid) ↔ ∀ d ∈ ds, d.2.Valid := by
    simp only [hperm.mem_iff]
  have hof : ofText file text = ofDefinitions (inOrder ds) := by rw [ofText_eq, h]
  rw [hof]
  refine ⟨?accepted, ?handlers, ?reported⟩
  case accepted =>
    simp only [ofDefinitions_eq_ok_iff, hvalid]
    exact ⟨fun ⟨_, hv, _⟩ => hv, fun hv => ⟨⟨_⟩, hv, rfl⟩⟩
  case handlers =>
    rintro ⟨handlers⟩ hr
    obtain ⟨-, rfl⟩ := ofDefinitions_eq_ok_iff.1 hr
    have hnames : names ⟨(inOrder ds).map fun d => d.2.handler d.1⟩ = (inOrder ds).map (·.1) := by
      simp [names, HandlerDefinition.handler, Function.comp_def]
    rw [hnames]
    refine ⟨hperm.map _, hnodup, fun name d hd => ⟨?_, d.texts_handler name⟩⟩
    exact find?_map_handler hnodup (hperm.mem_iff.2 hd)
  case reported =>
    intro e he
    obtain ⟨before, name, d, after, flaw, horder, hbefore, hflaw, rfl⟩ :=
      ofDefinitions_eq_error_iff.1 he
    have hd : (name, d) ∈ ds := hperm.mem_iff.1 (horder ▸ by simp)
    have hinvalid : ¬d.Valid := by
      rw [← HandlerDefinition.flaws_eq_nil_iff]
      intro hnil
      simp [hnil] at hflaw
    refine ⟨name, d, flaw, hd, hinvalid, hflaw, rfl, fun other hother ho => ?_⟩
    exact Text.bytes_le_bytes_iff.2 (le_of_inOrder_eq horder hbefore other hother ho)

/-- A word that stands for none may go with a text that is blocked. -/
theorem ofText_of_definitions?_none :
    let text := "Mod:\n  Staff_Alert_Message: hi\n  Staff_Alert_Permission: mod\n  Fine: 2.5\n" ++
      "Ads:\n  Block_Message: true\n  Replace_Word: NoNe\n"
    let ds : List (String × HandlerDefinition) :=
      [("Mod", { alertMessage := some "hi", alertPermission := some "mod",
                 fine := Binary64.ofText? "2.5".toList }),
        ("Ads", { blocks := true, replaceWord := some "NoNe" })]
    definitions? text = some ds ∧
      ∃ r, ofText "handlers.yml" text = .ok r ∧
        r.find? "Ads" = some { name := "Ads", outcome := .block } := by
  intro text ds
  have h : definitions? text = some ds := by decide +kernel
  have hvalid : ∀ d ∈ ds, d.2.Valid := by
    simp only [← HandlerDefinition.flaws_eq_nil_iff]
    decide +kernel
  obtain ⟨haccepted, hhandlers, -⟩ := @ofText_of_definitions? ds "handlers.yml" text h
  obtain ⟨r, hr⟩ := haccepted.2 hvalid
  refine ⟨h, r, hr, ?_⟩
  obtain ⟨-, -, hfind⟩ := hhandlers r hr
  have hads : ("Ads", { blocks := true, replaceWord := some "NoNe" }) ∈ ds := by simp [ds]
  exact (hfind "Ads" _ hads).1

end Registry
end Moderation
