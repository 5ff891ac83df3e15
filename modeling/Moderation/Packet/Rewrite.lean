import Moderation.Engine.Matching
import Moderation.Rule.Set
import Moderation.Tree.Basic

/-!
Outgoing texts: every text of a tree goes through the rules for packets. A rule that denies, or a
rewrite that says so, holds back the whole tree at once.
-/
namespace Moderation.Engine
open Moderation.Text

/-- What a rule makes of a text: another text, or nothing if the packet is held back. -/
abbrev Rewritten := Option String

namespace Context

/-- Whether a rewrite for a world holds the packet back. -/
def hides (text : String) : Bool := sameLetters text "none" || sameLetters text "hidden"

/-- What a rule that matches makes of a text. A denial comes before a rewrite for the world of the
player, that one before a rewrite for all worlds, and that one before a replacement. -/
def rewriteText (ctx : Context) (pace : Pace) (r : Rule) (p : PacketRule) (actor : Actor)
    (text : String) : Work Rewritten := do
  let values := Placeholders.of r.id actor text
  if p.denies then return none
  else match p.rewriteIn.lookup actor.world with
    | some rewrite =>
      let rewritten := colorize (values.fill rewrite)
      return if hides rewritten then none else some rewritten
    | none =>
      match p.rewrite, p.replace with
      | some rewrite, _ => return some (colorize (values.fill rewrite))
      | none, some replacement =>
        return some (colorize (← ctx.budget.replace pace.replacement .normalized r.pattern text replacement))
      | none, none => return some text

/-- What a rule that matches makes of a text, with the lines about it unless the rule is quiet. -/
def firePacket (ctx : Context) (pace : Pace) (r : Rule) (p : PacketRule) (actor : Actor)
    (text : String) : Work Rewritten := do
  let unlessQuiet (es : List Effect) : Work Unit := .emitAll (if p.quiet then [] else es)
  unlessQuiet (ctx.matchLines "*--------- Rule match: chat packet ---------" r text)
  match ← ctx.rewriteText pace r p actor text with
  | none =>
    unlessQuiet [ctx.line "Packet sending cancelled."]
    return none
  | some rewritten =>
    unlessQuiet (if rewritten = text then [] else [ctx.line ("FINAL: " ++ rewritten)])
    return some rewritten

/-- A rule tried on a text, without formatting codes and in small letters. Rules that are not for
packets do nothing. -/
def tryPacketRule (ctx : Context) (actor : Actor) (r : Rule) (text : String) : Work Rewritten := do
  match r.packet with
  | none => return some text
  | some p =>
    let pace := (← .draw).pace
    if ← ctx.ruleMatches pace r (stripColors (lowerCase text)) then ctx.firePacket pace r p actor text
    else return some text

def tryPacketRules (ctx : Context) (actor : Actor) : List Rule → String → Work Rewritten
  | [], text => pure (some text)
  | r :: rs, text => do
    match ← ctx.tryPacketRule actor r text with
    | some text => ctx.tryPacketRules actor rs text
    | none => return none

/-- What the rules make of a text. An empty text stays as it is. -/
def rewriteLeaf (ctx : Context) (rules : RuleSet) (actor : Actor) (text : String) :
    Work Rewritten :=
  if text = "" then pure (some "") else ctx.tryPacketRules actor (rules.get .packet) text

mutual

/-- What the rules make of a tree; nothing if one of its texts holds the packet back, and then the
texts after it are not looked at. -/
def rewriteTree (ctx : Context) (rules : RuleSet) (actor : Actor) : Tree → Work (Option Tree)
  | .atom a => pure (some (.atom a))
  | .text s => do return (← ctx.rewriteLeaf rules actor s).map .text
  | .list items => do return (← ctx.rewriteItems rules actor items).map .list
  | .object entries => do return (← ctx.rewriteEntries rules actor entries).map .object

def rewriteItems (ctx : Context) (rules : RuleSet) (actor : Actor) :
    List Tree → Work (Option (List Tree))
  | [] => pure (some [])
  | t :: ts => do
    match ← ctx.rewriteTree rules actor t with
    | none => return none
    | some t => return (← ctx.rewriteItems rules actor ts).map (t :: ·)

def rewriteEntries (ctx : Context) (rules : RuleSet) (actor : Actor) :
    List (String × Tree) → Work (Option (List (String × Tree)))
  | [] => pure (some [])
  | (k, t) :: es => do
    match ← ctx.rewriteTree rules actor t with
    | none => return none
    | some t => return (← ctx.rewriteEntries rules actor es).map ((k, t) :: ·)

end

/-- What the rules make of a packet. A packet that is held back is counted. -/
def rewritePacket (ctx : Context) (rules : RuleSet) (actor : Actor) (tree : Tree) :
    Work (Option Tree) := do
  let result ← ctx.rewriteTree rules actor tree
  if result.isNone then .emit (.count .packetCancellation)
  return result

@[simp] theorem rewriteLeaf_empty (ctx : Context) (rules : RuleSet) (actor : Actor) :
    ctx.rewriteLeaf rules actor "" = pure (some "") := rfl

end Context

end Moderation.Engine
