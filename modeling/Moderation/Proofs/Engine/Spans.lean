import Moderation.Engine.Firing
import Moderation.Packet.Rewrite
import Moderation.Proofs.Regex.Order

/-!
What a replacement leaves of a text. Between and around the matches everything stays as it is in the
text that is searched; but handlers and rules for packets search the text without its formatting
codes, and so the codes are gone, and rules for packets also turn into codes what the text has of
ampersands.
-/
namespace Moderation.Engine
open Moderation.Text

/-- What comes of a text where the matches give way to the expansions of a template: what lies
between and around the matches stays. A look-around that moves the start of a match can let it begin
after its end, and then a part of the text comes twice. -/
structure Substituted (re : Regex.Compiled) (ms : List Regex.Cursor)
    (template text result : String) : Prop where
  text_eq : re.keepsOrder = true → text.toList =
    Regex.Compiled.weave (Regex.Compiled.gaps 0 text.toList ms) (ms.map (·.groupText 0))
  result_eq : result.toList = Regex.Compiled.weave (Regex.Compiled.gaps 0 text.toList ms)
    (ms.map (Regex.expandTemplate re.extended re.names template.toList))

namespace Budget
variable {b : Budget} {looks : Looks} {mode : Mode} {pattern text template result : String}
  {state : State}

/-- What a replacement comes to: the matches in the text that is searched are substituted, or the
pattern is given up and the text stays as it is, or the program crashes and nothing comes of it. -/
inductive Replaces (b : Budget) (looks : Looks) (mode : Mode) (pattern text template : String)
    (state : State) : String → Prop
  | found {re : Regex.Compiled} {ms : List Regex.Cursor} {result : String}
      (compiles : (b.compile (mode.source pattern) state).value = .ok re)
      (walked : re.allMatches (mode.subject text).toList = some ms)
      (substituted : Substituted re ms template (mode.subject text) result) :
      b.Replaces looks mode pattern text template state result
  | givenUp {fault : Fault}
      (fails : (b.tryReplace looks mode pattern text template state).value = .error (.fault fault)) :
      b.Replaces looks mode pattern text template state text
  | crashes (fails : (b.tryReplace looks mode pattern text template state).value = .error .crash)
      (ends : .crash ∈ (b.replace looks mode pattern text template state).effects)
      (result : String) : b.Replaces looks mode pattern text template state result

lemma exists_of_run {α : Type} {source : String} {use : Regex.Compiled → Regex.Use α} {a : α}
    (h : (b.run looks source use state).value = .ok a) :
    ∃ re, (b.compile source state).value = .ok re ∧ (use re).result = .done a := by
  cases hc : (b.compile source state).value with
  | error fault => simp [run, hc] at h
  | ok re =>
    rw [run_of_compiles hc] at h
    exact ⟨re, rfl, result_of_settle h⟩

/-- Replacing substitutes the matches in the text that is searched, unless it fails. -/
theorem replaces_replace (b : Budget) (looks : Looks) (mode : Mode) (pattern text template : String)
    (state : State) : b.Replaces looks mode pattern text template state
      (b.replace looks mode pattern text template state).value := by
  cases htry : (b.tryReplace looks mode pattern text template state).value with
  | error failure =>
    have hvalue : (b.replace looks mode pattern text template state).value = text := by
      simp [replace, orReport, htry]
    cases failure with
    | fault fault =>
      rw [hvalue]
      exact .givenUp htry
    | crash => exact .crashes htry (by simp [replace, orReport, htry, report]) _
  | ok result =>
    have hvalue : (b.replace looks mode pattern text template state).value = result := by
      simp [replace, orReport, htry]
    rw [hvalue]
    obtain ⟨re, hcompile, huse⟩ := exists_of_run htry
    obtain ⟨out, hout, rfl⟩ := Regex.Result.map_eq_done_iff.1 huse
    obtain ⟨ms, hms, rfl⟩ := Regex.Compiled.splice_of_replaceAll hout
    refine .found hcompile hms ⟨fun hre => Regex.Compiled.eq_weave_gaps hre hms, ?_⟩
    rw [String.toList_ofList, Regex.Compiled.splice_eq_weave]

lemma Replaces.congr {mode' : Mode} (hsource : mode.source pattern = mode'.source pattern)
    (hsubject : mode.subject text = mode'.subject text)
    (h : b.Replaces looks mode pattern text template state result) :
    b.Replaces looks mode' pattern text template state result := by
  have htry : b.tryReplace looks mode pattern text template =
      b.tryReplace looks mode' pattern text template := by
    rw [tryReplace, tryReplace, hsource, hsubject]
  cases h with
  | found compiles walked substituted =>
    rw [hsource] at compiles
    rw [hsubject] at walked substituted
    exact .found compiles walked substituted
  | givenUp fails =>
    rw [htry] at fails
    exact .givenUp fails
  | crashes fails ends =>
    rw [replace, htry] at ends
    rw [htry] at fails
    exact .crashes fails ends _

/-- Without codes in the text it does not matter whether they are kept. -/
lemma replaces_normalized_iff (h : stripColors text = text) :
    b.Replaces looks .normalized pattern text template state result ↔
      b.Replaces looks .keepColors pattern text template state result :=
  ⟨.congr rfl h, .congr rfl h.symm⟩

end Budget

namespace Context

section Paths
variable {ctx : Context} {chance : Chance} {pace : Pace} {r : Rule} {text : String} {state : State}

lemma replaces_replaced {alternative : String}
    (h : pick chance.rolls.replacement r.replacements = some alternative) (actor : Actor) :
    ctx.budget.Replaces chance.pace.replacement .keepColors r.pattern text
      (colorize ((Placeholders.of r.id actor text).fill alternative)) state
      (ctx.replaced chance r actor text state).value := by
  simp only [replaced, h]
  exact Budget.replaces_replace ..

lemma replaces_handlerText {h : Handler} {word : String} (hword : h.outcome = .replaceWord word)
    (values : Placeholders) :
    ctx.budget.Replaces pace.handler .normalized r.pattern text (colorize (values.fill word)) state
      (ctx.handlerText pace h r values text state).value := by
  simp only [handlerText, hword]
  exact Budget.replaces_replace ..

lemma replaces_rewriteText {p : PacketRule} {actor : Actor} {replacement : String}
    (hdenies : p.denies = false) (hworld : p.rewriteIn.lookup actor.world = none)
    (hrewrite : p.rewrite = none) (hreplace : p.replace = some replacement) :
    ∃ result, ctx.budget.Replaces pace.replacement .normalized r.pattern text replacement state result ∧
      (ctx.rewriteText pace r p actor text state).value = some (colorize result) := by
  refine ⟨_, Budget.replaces_replace .., ?_⟩
  simp [rewriteText, hdenies, hworld, hrewrite, hreplace]

end Paths

/-- The three replacements. That of a rule leaves everything between and around the matches as it
is. That of a handler does so in the text without its codes, and that of a rule for packets as well,
but then it turns ampersands into codes everywhere, also where the pattern is given up. Without
codes in the text it does not matter that these are dropped. -/
theorem replacements_substitute_matches (ctx : Context) (chance : Chance) (r : Rule) (actor : Actor)
    (text : String) (state : State) :
    (∀ alternative, pick chance.rolls.replacement r.replacements = some alternative →
      ctx.budget.Replaces chance.pace.replacement .keepColors r.pattern text
        (colorize ((Placeholders.of r.id actor text).fill alternative)) state
        (ctx.replaced chance r actor text state).value) ∧
    (∀ (h : Handler) (word : String) (values : Placeholders), h.outcome = .replaceWord word →
      ctx.budget.Replaces chance.pace.handler .normalized r.pattern text
        (colorize (values.fill word)) state
        (ctx.handlerText chance.pace h r values text state).value) ∧
    (∀ (p : PacketRule) (replacement : String), p.denies = false →
      p.rewriteIn.lookup actor.world = none → p.rewrite = none → p.replace = some replacement →
      ∃ result, ctx.budget.Replaces chance.pace.replacement .normalized r.pattern text replacement
          state result ∧
        (ctx.rewriteText chance.pace r p actor text state).value = some (colorize result)) ∧
    (stripColors text = text → ∀ looks template result,
      ctx.budget.Replaces looks .normalized r.pattern text template state result ↔
        ctx.budget.Replaces looks .keepColors r.pattern text template state result) := by
  refine ⟨?_, ?_, ?_, ?_⟩
  · intro alternative hpick
    exact replaces_replaced hpick actor
  · intro h word values hword
    exact replaces_handlerText hword values
  · intro p replacement hdenies hworld hrewrite hreplace
    exact replaces_rewriteText hdenies hworld hrewrite hreplace
  · intro hplain looks template result
    exact Budget.replaces_normalized_iff hplain

/-- A word after codes: only the replacement of a rule leaves them as they are. -/
theorem replacements_substitute_matches_after_codes :
    let ctx : Context := { settings := {}, online := [] }
    let steve : Actor := ⟨"steve", "world", .survival, [], none⟩
    let r : Rule := { pattern := "friend", replacements := ["pal"] }
    let text := "§aHello &c friend"
    let pal := colorize ((Placeholders.of r.id steve text).fill "pal")
    ctx.budget.Replaces none .keepColors r.pattern text pal {} "§aHello &c pal" ∧
      ctx.budget.Replaces none .normalized r.pattern text pal {} "Hello &c pal" ∧
      ∃ result, ctx.budget.Replaces none .normalized r.pattern text "pal" {} result ∧
        colorize result = "Hello §c pal" := by
  intro ctx steve r text pal
  obtain ⟨hrule, hhandler, hpacket, -⟩ := replacements_substitute_matches ctx {} r steve text {}
  have hfirst := hrule "pal" rfl
  have hsecond := hhandler { name := "tidy", outcome := .replaceWord "pal" } "pal"
    (Placeholders.of r.id steve text) rfl
  obtain ⟨result, hthird, hresult⟩ := hpacket { replace := some "pal" } "pal" rfl rfl rfl rfl
  have hruled : (ctx.replaced {} r steve text {}).value = "§aHello &c pal" := by decide +kernel
  have hhandled : (ctx.handlerText {} { name := "tidy", outcome := .replaceWord "pal" } r
      (Placeholders.of r.id steve text) text {}).value = "Hello &c pal" := by decide +kernel
  have hsent : (ctx.rewriteText {} r { replace := some "pal" } steve text {}).value =
      some "Hello §c pal" := by decide +kernel
  rw [hruled] at hfirst
  rw [hhandled] at hsecond
  exact ⟨hfirst, hsecond, result, hthird, Option.some.inj (hresult.symm.trans hsent)⟩

/-- Handlers and rules for packets change a text outside of the matches. -/
theorem codes_change_outside_matches :
    let ctx : Context := { settings := {}, online := [] }
    let steve : Actor := ⟨"steve", "world", .survival, [], none⟩
    let r : Rule := { pattern := "friend", replacements := ["pal"] }
    let h : Handler := { name := "tidy", outcome := .replaceWord "pal" }
    let text := "§aHello friend"
    (ctx.replaced {} r steve text {}).value = "§aHello pal" ∧
      (ctx.handlerText {} h r (Placeholders.of r.id steve text) text {}).value = "Hello pal" ∧
      (ctx.rewriteText {} r { replace := some "pal" } steve "a &c friend" {}).value =
        some "a §c pal" := by
  decide +kernel

end Context

end Moderation.Engine
