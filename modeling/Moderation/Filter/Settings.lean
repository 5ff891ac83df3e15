import Moderation.Yaml.Record

/-!
Settings of the text filters and how they are read from a document. What is not given has a default,
but the limits of a kind of texts are given as a whole.
-/
namespace Moderation.Filter
open Moderation.Yaml

/-- When a message is written in too many capitals. Words of the whitelist never count. -/
structure CapsSettings where
  enabled : Bool := true
  warnPlayer : Bool := true
  ignoreUsernames : Bool := true
  minLength : Nat := 5
  minPercentage : Nat := 50
  minInARow : Nat := 5
  whitelist : List String := ["OMG", "LOL", "WTF", "WOW", "ROFL"]
deriving DecidableEq, Repr

/-- How soon and how similar to the one before a text may be. -/
structure SpamLimits where
  delaySeconds : Nat
  similarityPercentage : Nat := 80
  delayWhitelist : List String := []
  similarityWhitelist : List String := []
deriving DecidableEq, Repr

/-- Whether similarity is looked at; at zero and from one hundred on it is not. -/
def SpamLimits.checksSimilarity (l : SpamLimits) : Bool :=
  0 < l.similarityPercentage && l.similarityPercentage < 100

/-- Limits for messages and commands, and what is left out when texts are compared. -/
structure SpamSettings where
  messages : SpamLimits := { delaySeconds := 1 }
  commands : SpamLimits := { delaySeconds := 2 }
  regexInWhitelist : Bool := false
  stripSpecial : Bool := true
  stripDuplicate : Bool := false
  ignoreFirstArguments : Bool := true
deriving DecidableEq, Repr

/-- One of the corrections of grammar, and the length from which it is made. -/
structure GrammarRule where
  enabled : Bool := false
  minLength : Nat := 5
deriving DecidableEq, Repr

structure GrammarSettings where
  insertDot : GrammarRule := {}
  capitalize : GrammarRule := {}
deriving DecidableEq, Repr

structure FilterSettings where
  caps : CapsSettings := {}
  spam : SpamSettings := {}
  grammar : GrammarSettings := {}
deriving DecidableEq, Repr

def CapsSettings.ofNode? (n : Node) : Option CapsSettings := do
  let r ← n.record? ["enabled", "warn_player", "ignore_usernames", "min_message_length",
    "min_caps_percentage", "min_caps_in_a_row", "whitelist"]
  let d : CapsSettings := {}
  return {
    enabled := ← Node.field? r "enabled" Node.boolean? d.enabled
    warnPlayer := ← Node.field? r "warn_player" Node.boolean? d.warnPlayer
    ignoreUsernames := ← Node.field? r "ignore_usernames" Node.boolean? d.ignoreUsernames
    minLength := ← Node.field? r "min_message_length" Node.wide? d.minLength
    minPercentage := ← Node.field? r "min_caps_percentage" Node.narrow? d.minPercentage
    minInARow := ← Node.field? r "min_caps_in_a_row" Node.wide? d.minInARow
    whitelist := ← Node.field? r "whitelist" Node.texts? d.whitelist }

def SpamLimits.ofNode? (n : Node) : Option SpamLimits := do
  let r ← n.record? ["delay_seconds", "similarity_percentage", "whitelist_delay",
    "whitelist_similarity"]
  return {
    delaySeconds := ← Node.required? r "delay_seconds" Node.wide?
    similarityPercentage := ← Node.required? r "similarity_percentage" Node.narrow?
    delayWhitelist := ← Node.field? r "whitelist_delay" Node.texts? []
    similarityWhitelist := ← Node.field? r "whitelist_similarity" Node.texts? [] }

def SpamSettings.ofNode? (n : Node) : Option SpamSettings := do
  let r ← n.record? ["messages", "commands", "regex_in_whitelist", "strip_special_chars",
    "strip_duplicate_chars", "ignore_first_arguments_in_commands"]
  let d : SpamSettings := {}
  return {
    messages := ← Node.field? r "messages" SpamLimits.ofNode? d.messages
    commands := ← Node.field? r "commands" SpamLimits.ofNode? d.commands
    regexInWhitelist := ← Node.field? r "regex_in_whitelist" Node.boolean? d.regexInWhitelist
    stripSpecial := ← Node.field? r "strip_special_chars" Node.boolean? d.stripSpecial
    stripDuplicate := ← Node.field? r "strip_duplicate_chars" Node.boolean? d.stripDuplicate
    ignoreFirstArguments :=
      ← Node.field? r "ignore_first_arguments_in_commands" Node.boolean? d.ignoreFirstArguments }

def GrammarRule.ofNode? (n : Node) : Option GrammarRule := do
  let r ← n.record? ["enabled", "min_message_length"]
  let d : GrammarRule := {}
  return {
    enabled := ← Node.field? r "enabled" Node.boolean? d.enabled
    minLength := ← Node.field? r "min_message_length" Node.wide? d.minLength }

def GrammarSettings.ofNode? (n : Node) : Option GrammarSettings := do
  let r ← n.record? ["insert_dot", "capitalize"]
  return {
    insertDot := ← Node.field? r "insert_dot" GrammarRule.ofNode? {}
    capitalize := ← Node.field? r "capitalize" GrammarRule.ofNode? {} }

def FilterSettings.ofNode? (n : Node) : Option FilterSettings := do
  let r ← n.record? ["anti_caps", "anti_spam", "grammar"]
  return {
    caps := ← Node.field? r "anti_caps" CapsSettings.ofNode? {}
    spam := ← Node.field? r "anti_spam" SpamSettings.ofNode? {}
    grammar := ← Node.field? r "grammar" GrammarSettings.ofNode? {} }

def FilterSettings.ofText? (text : String) : Option FilterSettings :=
  (Node.ofText? text.toList).bind ofNode?

theorem FilterSettings.ofNode?_empty : ofNode? .empty = some {} := by
  simp [ofNode?]

end Moderation.Filter
