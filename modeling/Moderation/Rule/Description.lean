import Moderation.Number.Decimal
import Moderation.Rule.Basic
import Moderation.Text.Color

/-!
Rules in full, one line for each thing that is written about them. Two rules of a file may not have
the same description.
-/
namespace Moderation

def describedLine (words : String) : String := "    " ++ words ++ "\n"

def describedOption {α : Type} (line : α → String) : Option α → String
  | some a => describedLine (line a)
  | none => ""

/-- A line about a list, unless it is empty. -/
def describedList (title : String) : List String → String
  | [] => ""
  | items => describedLine (title ++ " = '" ++ ",".intercalate items ++ "'")

def PacketRule.describe (p : PacketRule) : String :=
  describedOption (fun s => "Replace Word: '" ++ s ++ "'") p.replace ++
  describedOption (fun s => "Rewrite With: '" ++ s ++ "'") p.rewrite ++
  String.join (p.rewriteIn.map fun (world, s) =>
    describedLine ("Rewrite In " ++ world ++ ": '" ++ s ++ "'")) ++
  (if p.quiet then describedLine "Do Not Verbose: true" else "") ++
  describedLine ("Then Deny: " ++ if p.denies then "true" else "false")

namespace Rule

/-- What a description says about a rule for the texts of players. -/
def describeStandard (r : Rule) : String :=
  describedOption (fun s => "Id = " ++ s) r.id ++
  describedLine ("Match = '" ++ r.pattern ++ "'") ++
  describedOption (fun s => "Strip Before Match = '" ++ s ++ "'") r.stripBefore ++
  describedOption (fun p => "Replace Before Match = '" ++ p.1 ++ "' with '" ++ p.2 ++ "'")
    r.replaceBefore ++
  describedOption (fun s => "Bypass With Perm = '" ++ s ++ "'") r.bypass ++
  describedOption (fun s => "Ignore Message = '" ++ s ++ "'") r.ignoredMessage ++
  describedOption (fun k => "Ignore Event = '" ++ k.title ++ "'") r.ignoredEvent ++
  describedList "Ignore Gamemodes" (r.ignoredModes.map (·.title)) ++
  describedList "Replace With" r.replacements ++
  describedList "Rewrite" r.rewrites ++
  describedList "Execute Command" r.commands ++
  describedOption (fun h => "Handler = '" ++ h.name ++ "'") r.handler ++
  describedOption (fun s => "Warn Message = '" ++ s ++ "'") r.warning ++
  describedOption (fun n => "Notify = '" ++ n.permission ++ "' with '" ++ n.message ++ "'")
    r.notice ++
  describedOption (fun s => "Kick Message = '" ++ s ++ "'") r.kick ++
  describedOption (fun x => "Fine = " ++ x.toText) r.fine ++
  (if r.cancels then describedLine "Deny = true" else "") ++
  (if r.logs then describedLine "Log = true" else "")

/-- A rule in full, without formatting codes. -/
def describe (r : Rule) : String :=
  Text.stripColors <|
    (match r.packet with
    | some p => "PacketRule\x7b\n" ++ describedLine ("Match = '" ++ r.pattern ++ "'") ++ p.describe
    | none => "Rule\x7b\n" ++ r.describeStandard) ++ "\x7d"

end Rule

end Moderation
