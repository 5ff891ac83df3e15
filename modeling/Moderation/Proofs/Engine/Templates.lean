import Moderation.Engine.Message
import Moderation.Placeholders
import Moderation.Proofs.Text.Substitution

/-!
What comes of the templates of rules and handlers. The values are put in one kind after the other,
so that a value that has a later name in it is changed: a text of a player can name the handler, and
in a command it can name the player and itself.
-/
namespace Moderation

namespace Placeholders
open Moderation.Text

/-- The names that templates may have, with and without a handler. -/
def knownNames (handled : Bool) : List (List Char) :=
  (["\x7bruleID\x7d", "\x7bplayer\x7d", "\x7bworld\x7d", "\x7bmessage\x7d"] ++
    if handled then ["\x7bhandler\x7d"] else []).map String.toList

/-- The names and values as characters, in the order in which they are put in. -/
def values (p : Placeholders) : Substitutions :=
  p.substitutions.map fun s => (s.1.toList, s.2.toList)

/-- The same for a command, where the player and the text are put in once more. -/
def commandValues (p : Placeholders) : Substitutions :=
  p.values ++
    [("\x7bplayer\x7d".toList, p.player.toList), ("\x7bmessage\x7d".toList, p.message.toList)]

variable (p : Placeholders)

lemma toList_fill (template : String) :
    (p.fill template).toList = p.values.inTurn template.toList := by
  rw [fill, Substitutions.inTurn, values, List.foldl_map]
  exact (List.foldl_hom String.toList fun text s => (toList_replace s.1 s.2 text).symm).symm

lemma names_values : p.values.names = knownNames p.handler.isSome := by
  obtain ⟨rule, player, world, message, handler⟩ := p
  cases handler <;> simp [values, substitutions, Substitutions.names, knownNames]

lemma nil_notMem_names_values : [] ∉ p.values.names := by
  have hknown : ∀ handled, [] ∉ knownNames handled := by decide
  rw [names_values]
  exact hknown _

/-- No name has another one in it, and a name on its own comes after nothing. -/
lemma knownNames_distinct : ∀ handled,
    (knownNames handled).Pairwise (fun m n => ¬m <:+: n) ∧
      ∀ n ∈ knownNames handled, Apart (knownNames handled) n := by
  decide +kernel

lemma names_commandValues : p.commandValues.names = p.values.names ++
    ["\x7bplayer\x7d".toList, "\x7bmessage\x7d".toList] := by
  simp [commandValues, Substitutions.names]

lemma names_commandValues_subset : p.commandValues.names ⊆ p.values.names := by
  have hplayer : "\x7bplayer\x7d".toList ∈ knownNames p.handler.isSome := by simp [knownNames]
  have hmessage : "\x7bmessage\x7d".toList ∈ knownNames p.handler.isSome := by simp [knownNames]
  rw [← names_values] at hplayer hmessage
  intro n hn
  simp only [names_commandValues, List.mem_append, List.mem_cons, List.not_mem_nil, or_false] at hn
  obtain hn | rfl | rfl := hn
  · exact hn
  · exact hplayer
  · exact hmessage

/-- The values are put into a template at once, each as it is after the later ones were put into
it. -/
theorem fill_eq_atOnce (hv : p.values.Unmixed) {template : String}
    (ht : Apart p.values.names template.toList) :
    p.fill template = .ofList (p.values.settled.atOnce template.toList) := by
  rw [← Substitutions.inTurn_eq_atOnce p.nil_notMem_names_values hv ht, ← toList_fill,
    String.ofList_toList]

/-- Exactly the values that no later name changes are put at once into all templates. -/
theorem fill_eq_atOnce_iff (hv : p.values.Unmixed) :
    (∀ template, Apart p.values.names template.toList →
      p.fill template = .ofList (p.values.atOnce template.toList)) ↔ p.values.Unchanged := by
  obtain ⟨hdistinct, hself⟩ := knownNames_distinct p.handler.isSome
  rw [← names_values] at hdistinct hself
  rw [← Substitutions.unchanged_iff p.nil_notMem_names_values hv hdistinct hself]
  constructor
  · intro h cs hcs
    have hcs' : Apart p.values.names (String.ofList cs).toList := by rwa [String.toList_ofList]
    have hfill := congrArg String.toList (h (.ofList cs) hcs')
    rwa [toList_fill, String.toList_ofList, String.toList_ofList] at hfill
  · intro h template ht
    rw [← h _ ht, ← toList_fill, String.ofList_toList]

end Placeholders

namespace Engine
open Moderation.Text

lemma customCommand_fill (p : Placeholders) (actor : Actor) (hplayer : p.player = actor.name)
    (command : String) : customCommand actor p.message (p.fill command) =
      if p.fill command = "" ∨ saysNone (p.fill command) then []
      else [commandLater (colorize (.ofList (p.commandValues.inTurn command.toList)))] := by
  have hlist : (replace "\x7bmessage\x7d" p.message
      (replace "\x7bplayer\x7d" actor.name (p.fill command))).toList =
      p.commandValues.inTurn command.toList := by
    rw [Placeholders.commandValues, Substitutions.inTurn_append, toList_replace, toList_replace,
      Placeholders.toList_fill, hplayer]
    rfl
  rw [customCommand, ← hlist, String.ofList_toList]

/-- Everything is put into the templates of rules and handlers at once, each value as the later ones
leave it, unless a value makes up a name with the text around it; so the values themselves are put
in exactly if none of them is changed by a later one. A command is filled in the same way, but the
player and the text are put in twice there, and so they also change what was put in before. -/
theorem templates_filled_at_once (rule : Option String) (actor : Actor) (message : String)
    (handler : Option String) :
    let p : Placeholders := { Placeholders.of rule actor message with handler }
    (p.values.Unmixed →
      (∀ template, Apart p.values.names template.toList →
        p.fill template = .ofList (p.values.settled.atOnce template.toList)) ∧
      ((∀ template, Apart p.values.names template.toList →
        p.fill template = .ofList (p.values.atOnce template.toList)) ↔ p.values.Unchanged)) ∧
    (p.commandValues.Unmixed → ∀ command, Apart p.values.names command.toList →
      let effects := customCommand actor message (p.fill command)
      let sent (values : Substitutions) :=
        if p.fill command = "" ∨ saysNone (p.fill command) then []
        else [commandLater (colorize (.ofList (values.atOnce command.toList)))]
      effects = sent p.commandValues.settled ∧
        (p.commandValues.Unchanged → effects = sent p.values)) := by
  intro p
  refine ⟨fun hv => ⟨fun template ht => p.fill_eq_atOnce hv ht, p.fill_eq_atOnce_iff hv⟩, ?_⟩
  intro hv command hc effects sent
  have hnames : p.commandValues.names ⊆ p.values.names := p.names_commandValues_subset
  have hne : [] ∉ p.commandValues.names := fun h => p.nil_notMem_names_values (hnames h)
  have hsettled : effects = sent p.commandValues.settled := by
    have h := customCommand_fill p actor rfl command
    rwa [Substitutions.inTurn_eq_atOnce hne hv (hc.mono hnames)] at h
  refine ⟨hsettled, fun hu => ?_⟩
  have hsame : p.commandValues.atOnce command.toList = p.values.atOnce command.toList := by
    refine Substitutions.atOnce_append_of_subset (fun n hn => hnames ?_) _
    rw [Placeholders.commandValues, Substitutions.names, List.map_append]
    exact List.mem_append_right _ hn
  rw [hsettled, Substitutions.settled_of_unchanged hu]
  simp only [sent, hsame]

/-- A text that names the handler is put in with the name of the handler. -/
theorem templates_filled_at_once_of_named_handler :
    let steve : Actor := ⟨"steve", "world", .survival, [], none⟩
    let message := "by \x7bhandler\x7d!"
    let p : Placeholders := { Placeholders.of none steve message with handler := some "swear" }
    let command := "say \x7bmessage\x7d"
    p.values.Unmixed ∧ p.commandValues.Unmixed ∧ Apart p.values.names command.toList ∧
      p.fill command = .ofList (p.values.settled.atOnce command.toList) ∧
      customCommand steve message (p.fill command) = [commandLater "say by swear!"] := by
  intro steve message p command
  obtain ⟨hfill, hcommand⟩ := templates_filled_at_once none steve message (some "swear")
  have hv : p.values.Unmixed := by decide +kernel
  have hc : p.commandValues.Unmixed := by decide +kernel
  have ht : Apart p.values.names command.toList := by decide +kernel
  exact ⟨hv, hc, ht, (hfill hv).1 _ ht, (hcommand hc _ ht).1.trans (by decide +kernel)⟩

/-- What players write is looked at again: in the templates of a handler a text can name the
handler, and in a command a text can name the player and itself. -/
theorem message_is_filled :
    let steve : Actor := ⟨"steve", "world", .survival, [], none⟩
    let named := "\x7bhandler\x7d"
    let p : Placeholders := { Placeholders.of none steve named with handler := some "swear" }
    let q := Placeholders.of none steve "\x7bplayer\x7d"
    p.fill "\x7bmessage\x7d" = "swear" ∧
      p.values.atOnce "\x7bmessage\x7d".toList = named.toList ∧
      customCommand steve q.message (q.fill "say \x7bmessage\x7d") = [commandLater "say steve"] ∧
      q.values.atOnce "say \x7bmessage\x7d".toList = "say \x7bplayer\x7d".toList := by
  decide +kernel

end Engine

end Moderation
