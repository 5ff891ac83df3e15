import Moderation.Proofs.Filter.Repetition
import Moderation.Proofs.Text.Split
import Moderation.Proofs.Text.Substitution

/-!
Commands without their first argument. The name of a command and its first argument are taken out
wherever they occur, so that the parts after them lose characters too. Two commands that only differ in
the first argument are compared as the same text exactly if every part loses the same in both.
-/
namespace Moderation.Filter
open Text Text.Substitutions

namespace SpamFilter

/-- The text that is compared for a command. -/
def compared (f : SpamFilter) (command : String) : String :=
  f.prepared (if f.settings.ignoreFirstArguments then withoutFirstArguments command else command)

/-- Whether a command is allowed even if it is too similar. -/
def allowsSimilar (f : SpamFilter) (command : String) (bypass : Bypass) : Bool :=
  bypass.similarity || f.settings.commands.similarityWhitelist.contains (commandName command)

/-- What is left of a part of a command without the name and the first argument. -/
def remainder (name first part : List Char) : List Char :=
  replaceText first [] (replaceText name [] part)

end SpamFilter

open SpamFilter

section Remainder
variable {name first first' part : List Char} {rest : List (List Char)} {command command' : String}

lemma replaceText_self (old : List Char) : replaceText old [] old = [] := by
  by_cases h : old = []
  · rw [h, replaceText, if_pos rfl]
  · rw [replaceText_eq_atOnce h, atOnce_self h]

lemma not_mem_remainder {c : Char} (h : c ∉ part) : c ∉ remainder name first part := by
  intro hc
  obtain hc | hc := mem_of_mem_replaceText hc
  · exact (mem_of_mem_replaceText hc).elim h (by simp)
  · contradiction

lemma infix_nonempty {a b : List Char} (h : ¬a <:+: b) : a ≠ [] := by
  rintro rfl
  exact h List.nil_infix

lemma remainder_name (name first : List Char) : remainder name first name = [] := by
  rw [remainder, replaceText_self, replaceText_nil]

lemma remainder_first (h : ¬name <:+: first) : remainder name first first = [] := by
  rw [remainder, replaceText_of_absent (infix_nonempty h) h, replaceText_self]

/-- A part that has not the first argument in it loses no more than the name. -/
lemma remainder_of_absent (h : ¬first <:+: replaceText name [] part) :
    remainder name first part = replaceText name [] part :=
  replaceText_of_absent (infix_nonempty h) h []

lemma blank_not_mem_part (hc : splitOn ' ' command.toList = name :: first :: rest) :
    ∀ p ∈ name :: first :: rest, ' ' ∉ p := by
  rw [← hc]
  exact fun p hp => not_mem_of_mem_splitOn hp

lemma blank_not_mem_remainder (hc : splitOn ' ' command.toList = name :: first :: rest) :
    ∀ p ∈ [] :: remainder name first first :: rest.map (remainder name first), ' ' ∉ p := by
  obtain ⟨-, hparts⟩ := List.forall_mem_cons.1 (blank_not_mem_part hc)
  refine List.forall_mem_cons.2 ⟨List.not_mem_nil, ?_⟩
  rw [← List.map_cons (f := remainder name first), List.forall_mem_map]
  exact fun p hp => not_mem_remainder (hparts p hp)

/-- The name goes as a whole, and each other part leaves what is left of it. -/
theorem toList_withoutFirstArguments (hrest : rest ≠ [])
    (hc : splitOn ' ' command.toList = name :: first :: rest) :
    (withoutFirstArguments command).toList =
      join [' '] ([] :: remainder name first first :: rest.map (remainder name first)) := by
  have hparts := blank_not_mem_part hc
  have htext : command.toList = join [' '] (name :: first :: rest) := by
    rw [← hc, join_splitOn]
  obtain ⟨p, ps, rfl⟩ := List.exists_cons_of_ne_nil hrest
  rw [withoutFirstArguments, hc, String.toList_ofList, htext,
    replaceText_join (hparts name (by simp)), replaceText_join (hparts first (by simp)), List.map_map]
  exact congrArg (join [' ']) (congrArg (· :: _) (remainder_name name first))

/-- Two commands that only differ in the first argument are the same without it exactly if each part leaves
the same in both. -/
theorem withoutFirstArguments_inj (hrest : rest ≠ [])
    (hc : splitOn ' ' command.toList = name :: first :: rest)
    (hc' : splitOn ' ' command'.toList = name :: first' :: rest) :
    withoutFirstArguments command = withoutFirstArguments command' ↔
      remainder name first first = remainder name first' first' ∧
        ∀ p ∈ rest, remainder name first p = remainder name first' p := by
  rw [← String.toList_inj, toList_withoutFirstArguments hrest hc,
    toList_withoutFirstArguments hrest hc', join_inj (by simp) (by simp)
    (blank_not_mem_remainder hc) (blank_not_mem_remainder hc')]
  simp only [List.cons.injEq, true_and, List.map_inj_left]

/-- So they are the same if neither first argument has the name in it or occurs in a part after it. -/
theorem withoutFirstArguments_congr (hrest : rest ≠ [])
    (hc : splitOn ' ' command.toList = name :: first :: rest)
    (hc' : splitOn ' ' command'.toList = name :: first' :: rest)
    (h : ∀ w ∈ [first, first'], ¬name <:+: w ∧ ∀ p ∈ rest, ¬w <:+: replaceText name [] p) :
    withoutFirstArguments command = withoutFirstArguments command' := by
  obtain ⟨hname, habsent⟩ := h first (by simp)
  obtain ⟨hname', habsent'⟩ := h first' (by simp)
  refine (withoutFirstArguments_inj hrest hc hc').2 ⟨?_, fun p hp => ?_⟩
  · rw [remainder_first hname, remainder_first hname']
  · rw [remainder_of_absent (habsent p hp), remainder_of_absent (habsent' p hp)]

end Remainder

section Check
variable {f : SpamFilter} {h : History} {text : String} {bypass : Bypass} {now : Nat}

/-- A command that need not wait is compared, and kept if it is not too similar. -/
theorem check_command_of_no_wait (hs : f.settings.commands.checksSimilarity = true)
    (hw : (f.delayOf ⟨.command text, bypass, now⟩ h).1 = none) :
    let t := (f.delayOf ⟨.command text, bypass, now⟩ h).2
    f.check (.command text) bypass now h =
      if isSimilar f.settings.commands h.commands.text (f.compared text) then
        (if f.allowsSimilar text bypass then .allowed else .similar, { h with commands := t })
      else (.allowed, { h with commands := { t with text := some (f.compared text) } }) := by
  have hw : (checkDelay f.settings.commands (bypass.delay ||
      f.settings.commands.delayWhitelist.contains (commandName text)) now h.commands).1 = none := hw
  simp only [SpamFilter.check, SpamFilter.checkCommand, hw, hs, checkDelay_text, if_true]
  rw [← compared]
  cases isSimilar f.settings.commands h.commands.text (f.compared text) <;> rfl

lemma check_command_eq_similar_iff (hs : f.settings.commands.checksSimilarity = true)
    (hw : (f.delayOf ⟨.command text, bypass, now⟩ h).1 = none)
    (ha : f.allowsSimilar text bypass = false) :
    (f.check (.command text) bypass now h).1 = .similar ↔
      isSimilar f.settings.commands h.commands.text (f.compared text) = true := by
  rw [check_command_of_no_wait hs hw, ha]
  cases isSimilar f.settings.commands h.commands.text (f.compared text) <;> simp

end Check

/-- Two commands of the same name that only differ in the first argument: the texts without it are the same
exactly if each part leaves the same in both, and so if neither first argument has the name in it or
occurs in a part after it. If the one was kept last, the other is found similar by the percentage of what
is left, and so for certain if that is the same. -/
theorem similar_without_first_argument (f : SpamFilter)
    (hi : f.settings.ignoreFirstArguments = true)
    (hs : f.settings.commands.checksSimilarity = true) {name first first' : List Char}
    {rest : List (List Char)} (hrest : rest ≠ []) {command command' : String}
    (hc : splitOn ' ' command.toList = name :: first :: rest)
    (hc' : splitOn ' ' command'.toList = name :: first' :: rest) :
    (withoutFirstArguments command = withoutFirstArguments command' ↔
      remainder name first first = remainder name first' first' ∧
        ∀ p ∈ rest, remainder name first p = remainder name first' p) ∧
    ((∀ w ∈ [first, first'], ¬name <:+: w ∧ ∀ p ∈ rest, ¬w <:+: replaceText name [] p) →
      withoutFirstArguments command = withoutFirstArguments command') ∧
    ∀ (h : History) (bypass : Bypass) (now : Nat), h.commands.text = some (f.compared command) →
      (f.delayOf ⟨.command command', bypass, now⟩ h).1 = none →
      f.allowsSimilar command' bypass = false →
      ((f.check (.command command') bypass now h).1 = .similar ↔
        f.settings.commands.similarityPercentage <
          similarity (f.compared command') (f.compared command)) ∧
      (withoutFirstArguments command = withoutFirstArguments command' →
        (f.check (.command command') bypass now h).1 = .similar) := by
  refine ⟨withoutFirstArguments_inj hrest hc hc', withoutFirstArguments_congr hrest hc hc',
    fun h bypass now hkept hw ha => ?_⟩
  rw [check_command_eq_similar_iff hs hw ha, hkept]
  refine ⟨by simp [isSimilar], fun hsame => ?_⟩
  have hcompared : f.compared command' = f.compared command := by
    rw [compared, compared, if_pos hi, if_pos hi, hsame]
  rw [hcompared]
  exact isSimilar_self hs _

/-- Another recipient of the same message, long enough after it. -/
theorem similar_without_first_argument_of_tell :
    let f : SpamFilter := ⟨{}, .beginnings [], .beginnings []⟩
    let free : Bypass := ⟨false, false⟩
    let h := f.historyAfter {} [⟨.command "/tell Notch hello there", free, 0⟩]
    let name := "/tell".toList
    let rest := ["hello".toList, "there".toList]
    f.settings.ignoreFirstArguments = true ∧ f.settings.commands.checksSimilarity = true ∧
      rest ≠ [] ∧
      splitOn ' ' "/tell Notch hello there".toList = name :: "Notch".toList :: rest ∧
      splitOn ' ' "/tell Jeb hello there".toList = name :: "Jeb".toList :: rest ∧
      withoutFirstArguments "/tell Notch hello there" = withoutFirstArguments "/tell Jeb hello there" ∧
      (f.check (.command "/tell Jeb hello there") free (5 * second) h).1 = .similar := by
  intro f free h name rest
  have hi : f.settings.ignoreFirstArguments = true := by decide
  have hs : f.settings.commands.checksSimilarity = true := by decide
  have hrest : rest ≠ [] := List.cons_ne_nil _ _
  have hc : splitOn ' ' "/tell Notch hello there".toList = name :: "Notch".toList :: rest := by
    decide
  have hc' : splitOn ' ' "/tell Jeb hello there".toList = name :: "Jeb".toList :: rest := by
    decide
  obtain ⟨-, habsent, hcheck⟩ := similar_without_first_argument f hi hs hrest hc hc'
  have hsame := habsent (by decide)
  obtain ⟨-, hsimilar⟩ :=
    hcheck h free (5 * second) (by decide) (by decide +kernel) (by decide +kernel)
  exact ⟨hi, hs, hrest, hc, hc', hsame, hsimilar hsame⟩

/-- A first argument that occurs in the message is taken out of it too: the same message to another
recipient is compared as another text, and allowed. -/
theorem first_argument_within_message :
    let f : SpamFilter := ⟨{}, .beginnings [], .beginnings []⟩
    let tell (text : String) (time : Nat) : Attempt := ⟨.command text, ⟨false, false⟩, time⟩
    f.settings.ignoreFirstArguments = true ∧ f.settings.commands.checksSimilarity = true ∧
      parts ' ' "/tell Notch hello there" = ["/tell", "Notch", "hello", "there"] ∧
      parts ' ' "/tell e hello there" = ["/tell", "e", "hello", "there"] ∧
      f.compared "/tell Notch hello there" = "  hello there" ∧
      f.compared "/tell e hello there" = "  hllo thr" ∧
      (f.decisions {} [tell "/tell Notch hello there" 0, tell "/tell e hello there" (5 * second)]).map
        (·.verdict) = [.allowed, .allowed] := by
  refine ⟨?_, ?_, ?_, ?_, ?_, ?_, ?_⟩ <;> decide

end Moderation.Filter
