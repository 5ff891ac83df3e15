import Moderation.Text.Basic

/-!
The kinds of events that texts come from, and the categories of rules. Each kind has a category of its
own; two more categories hold the rules for all kinds and those for outgoing packets.
-/
namespace Moderation

/-- Where a text comes from. -/
inductive EventKind
  | chat
  | command
  | sign
deriving DecidableEq, Repr

/-- A category of rules, kept in one file. -/
inductive Category
  | general
  | packet
  | chat
  | command
  | sign
deriving DecidableEq, Repr

namespace Category

/-- The categories in the order in which they are loaded. -/
def all : List Category := [.general, .chat, .command, .sign, .packet]

def fileName : Category → String
  | .general => "rules.txt"
  | .packet => "packets.txt"
  | .chat => "chat.txt"
  | .command => "commands.txt"
  | .sign => "sign.txt"

/-- The kind of events that the rules of a category are for. -/
def eventKind? : Category → Option EventKind
  | .chat => some .chat
  | .command => some .command
  | .sign => some .sign
  | .general => none
  | .packet => none

/-- Whether rules of other categories can be told to skip the events of this one. -/
def canBeIgnored (c : Category) : Bool := c.eventKind?.isSome

def title : Category → String
  | .general => "GLOBAL"
  | .packet => "PACKET"
  | .chat => "CHAT"
  | .command => "COMMAND"
  | .sign => "SIGN"

def label : Category → String
  | .general => "global"
  | .packet => "packet"
  | .chat => "chat"
  | .command => "command"
  | .sign => "sign"

@[simp] theorem mem_all (c : Category) : c ∈ all := by cases c <;> decide

theorem nodup_all : all.Nodup := by decide

end Category

namespace EventKind

def all : List EventKind := [.chat, .command, .sign]

/-- The category of the rules that are for events of one kind only. -/
def category : EventKind → Category
  | .chat => .chat
  | .command => .command
  | .sign => .sign

def title (k : EventKind) : String := k.category.title

def label (k : EventKind) : String := k.category.label

/-- The kind that a word means, in letters of either case and with spaces anywhere. -/
def ofText? (text : String) : Option EventKind :=
  let word := Text.replace " " "" (Text.lowerCase text)
  if word = "chat" then some .chat
  else if word = "command" ∨ word = "commands" then some .command
  else if word = "sign" ∨ word = "signs" then some .sign
  else none

/-- What is said about a word that means no kind. -/
def unknownMessage (text : String) : String :=
  "unknown event '" ++ text ++ "', valid: chat, command, sign"

@[simp] theorem eventKind?_category (k : EventKind) : k.category.eventKind? = some k := by
  cases k <;> rfl

end EventKind

end Moderation
