import Moderation.Proofs.Engine.Spans
import Moderation.Proofs.Regex.Template
import Moderation.Proofs.Regex.Walk

/-!
Replacements without a fault. The matches of the pattern are walked over from left to right, and each
gives way to the expansion of the replacement, while everything else stays in its place. With the
whole match as the replacement the text stays as it is.
-/
namespace Moderation.Engine

/-- What a walk over the matches in a text makes of it. The matches lie in the text, one after the
other, and there is at most one more of them than there are characters. -/
structure Walked (re : Regex.Compiled) (template text result : String) (ms : List Regex.Cursor) :
    Prop where
  walks : re.Walks none (some (.start text.toList)) ms
  inside : ∀ m ∈ ms, m.first ≤ m.index ∧ m.index ≤ text.toList.length
  increasing : ms.Pairwise fun m m' => m.index ≤ m'.first ∧ m.index < m'.index
  count : ms.length ≤ text.toList.length + 1
  text_eq : text.toList =
    Regex.Compiled.weave (Regex.Compiled.gaps 0 text.toList ms) (ms.map (·.groupText 0))
  result_eq : result.toList = Regex.Compiled.weave (Regex.Compiled.gaps 0 text.toList ms)
    (ms.map (Regex.expandTemplate re.extended re.names template.toList))

/-- The reference to the whole match stands for it, unless a group has its name. -/
lemma expandTemplate_whole {names : List (String × Nat)} (h : names.lookup "0" = none)
    (extended : Bool) (m : Regex.Cursor) :
    Regex.expandTemplate extended names "$0".toList m = m.groupText 0 := by
  have hparts : Regex.partsOf extended "$0".toList = [.group ['0']] := by
    cases extended <;> rfl
  have hnumber : Regex.templateNumber? ['0'] = some 0 := by decide
  have hname : names.lookup (String.ofList ['0']) = none := h
  simp only [Regex.expandTemplate, hparts, List.flatMap_singleton, Regex.TemplatePart.expand,
    Regex.TemplatePart.group?, hname, hnumber, Option.none_or]

namespace Walked
variable {re : Regex.Compiled} {template text result : String} {ms : List Regex.Cursor}

lemma eq_of_whole (h : Walked re "$0" text result ms) (hnames : re.names.lookup "0" = none) :
    result = text := by
  have hwhole : Regex.expandTemplate re.extended re.names "$0".toList = (·.groupText 0) := by
    funext m
    exact expandTemplate_whole hnames re.extended m
  apply String.toList_injective
  rw [h.result_eq, hwhole]
  exact h.text_eq.symm

lemma eq_of_literal (h : Walked re template text result ms) (hdollar : '$' ∉ template.toList) :
    result.toList = Regex.Compiled.weave (Regex.Compiled.gaps 0 text.toList ms)
      (ms.map fun _ => template.toList) := by
  have hinert : Regex.isInert re.extended template.toList = true := Regex.isInert_of_no_dollar hdollar
  have hliteral : Regex.expandTemplate re.extended re.names template.toList =
      fun _ => template.toList := by
    funext m
    exact Regex.expandTemplate_eq_self_iff.2 hinert m
  rw [h.result_eq, hliteral]

end Walked

namespace Budget

/-- Where matches come one after the other, a replacement gives a text or comes to a fault. -/
lemma exists_ok_of_faultless {b : Budget} {looks : Looks} {mode : Mode}
    {pattern text template : String} {state : State} {re : Regex.Compiled}
    (hcompiles : (b.compile (mode.source pattern) state).value = .ok re)
    (horder : re.keepsOrder = true)
    (hfaultless : ∀ fault,
      (b.tryReplace looks mode pattern text template state).value ≠ .error (.fault fault)) :
    ∃ result, (b.tryReplace looks mode pattern text template state).value = .ok result := by
  have hsettle : (b.tryReplace looks mode pattern text template state).value = b.settle looks
      ((re.replaceAll template.toList (mode.subject text).toList).map String.ofList) := by
    rw [tryReplace, run_of_compiles hcompiles]
  cases hvalue : (b.tryReplace looks mode pattern text template state).value with
  | ok result => exact ⟨result, rfl⟩
  | error failure =>
    cases failure with
    | fault fault => exact absurd hvalue (hfaultless fault)
    | crash =>
      have hcrash := result_of_settle_crash (hsettle.symm.trans hvalue)
      exact absurd (Regex.Result.map_eq_crash_iff.1 hcrash)
        (Regex.Compiled.replaceAll_ne_crash horder _ _)

/-- If no look-around moves the start of a match, a replacement without a fault is a walk over the
matches in the text that is searched. The whole match as the replacement leaves that text as it is,
unless a group is called 0, and a replacement without a dollar sign is inserted as it is. -/
theorem tryReplace_walked {b : Budget} {looks : Looks} {mode : Mode}
    {pattern text template : String} {state : State} {re : Regex.Compiled}
    (hcompiles : (b.compile (mode.source pattern) state).value = .ok re)
    (horder : re.keepsOrder = true)
    (hfaultless : ∀ fault,
      (b.tryReplace looks mode pattern text template state).value ≠ .error (.fault fault)) :
    ∃ result ms, (b.tryReplace looks mode pattern text template state).value = .ok result ∧
      Walked re template (mode.subject text) result ms ∧
      (template = "$0" → re.names.lookup "0" = none → result = mode.subject text) ∧
      ('$' ∉ template.toList → result.toList =
        Regex.Compiled.weave (Regex.Compiled.gaps 0 (mode.subject text).toList ms)
          (ms.map fun _ => template.toList)) := by
  obtain ⟨result, hresult⟩ := exists_ok_of_faultless hcompiles horder hfaultless
  obtain ⟨re', hcompiles', huse⟩ := exists_of_run hresult
  obtain rfl : re = re' := Except.ok.inj (hcompiles.symm.trans hcompiles')
  obtain ⟨out, hout, hof⟩ := Regex.Result.map_eq_done_iff.1 huse
  obtain ⟨ms, hms, hsplice⟩ := Regex.Compiled.splice_of_replaceAll hout
  obtain ⟨hwalks, hinside, hincreasing, hcount⟩ := Regex.Compiled.walks_of_allMatches horder hms
  have hwalked : Walked re template (mode.subject text) result ms := by
    refine ⟨hwalks, hinside, hincreasing, hcount, Regex.Compiled.eq_weave_gaps horder hms, ?_⟩
    rw [← hof, String.toList_ofList, hsplice, Regex.Compiled.splice_eq_weave]
  refine ⟨result, ms, hresult, hwalked, ?_, hwalked.eq_of_literal⟩
  rintro rfl hnames
  exact hwalked.eq_of_whole hnames

/-- Matches of nothing at the ends of a text and between its characters. -/
theorem tryReplace_walked_of_empty :
    let b : Budget := { timeout := 100, backtracks := 1000 }
    let text := "abbc"
    ∃ re ms ms', (b.compile "b*" {}).value = .ok re ∧ re.keepsOrder = true ∧
      (b.tryReplace none .exact "b*" text "-" {}).value = .ok "-a-c-" ∧
      Walked re "-" text "-a-c-" ms ∧
      (b.tryReplace none .exact "b*" text "$0" {}).value = .ok text ∧
      Walked re "$0" text text ms' := by
  intro b text
  obtain ⟨re, hre⟩ : ∃ re, Regex.compile? b.library b.backtracks "b*".toList = some re :=
    Option.isSome_iff_exists.1 (by decide +kernel)
  have hcompiles : (b.compile "b*" {}).value = .ok re := by
    simp only [compile, List.lookup_nil, hre]
  have horder : re.keepsOrder = true := Regex.Compiled.keepsOrder_of_compile (by decide +kernel) hre
  have hdashes : (b.tryReplace none .exact "b*" text "-" {}).value = .ok "-a-c-" := by
    decide +kernel
  have hwhole : (b.tryReplace none .exact "b*" text "$0" {}).value = .ok text := by decide +kernel
  have hfaultless {template result : String}
      (h : (b.tryReplace none .exact "b*" text template {}).value = .ok result) (fault : Fault) :
      (b.tryReplace none .exact "b*" text template {}).value ≠ .error (.fault fault) := by simp [h]
  obtain ⟨result, ms, hresult, hms, -, -⟩ := tryReplace_walked hcompiles horder (hfaultless hdashes)
  obtain ⟨result', ms', hresult', hms', -, -⟩ :=
    tryReplace_walked hcompiles horder (hfaultless hwhole)
  obtain rfl := Except.ok.inj (hresult.symm.trans hdashes)
  obtain rfl := Except.ok.inj (hresult'.symm.trans hwhole)
  exact ⟨re, ms, ms', hcompiles, horder, hdashes, hms, hwhole, hms'⟩

/-- A group that is called 0 stands in the place of the whole match. -/
theorem whole_match_lost :
    let b : Budget := { timeout := 100, backtracks := 1000 }
    (b.tryReplace none .exact "(?<0>a)b(?=c)" "abc" "$0" {}).value = .ok "ac" := by
  decide +kernel

end Budget

end Moderation.Engine
