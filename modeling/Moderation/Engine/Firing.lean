import Moderation.Engine.Handling
import Moderation.Engine.Matching

/-!
Rules at work: what a rule that matches does, from first to last. What comes before the handler sees
the text as the rule found it, and what comes after sees the text as the rule leaves it.
-/
namespace Moderation.Rule
open Moderation.Engine Moderation.Text

/-- What a rule that matches does after the text is changed: commands, the warning, the fine and the
kick. The warning comes at once if the text is held back. -/
def closingEffects (r : Rule) (actor : Actor) (text : String) : List Effect :=
  let values := Placeholders.of r.id actor text
  (r.commands.flatMap fun command => customCommand actor text (values.fill command)) ++
  (r.warning.toList.map fun warning =>
    tellWhen r.cancels actor.name (colorize (values.fill warning))) ++
  (r.fine.toList.map fun amount => .act (.withdraw actor.name amount)) ++
  (r.kick.toList.map fun message => commandLater ("kick " ++ actor.name ++ " " ++ colorize message))

def rewritten (r : Rule) (rolls : Rolls) (actor : Actor) (text : String) : String :=
  match pick rolls.rewrite r.rewrites with
  | some rewrite => colorize ((Placeholders.of r.id actor text).fill rewrite)
  | none => text

@[simp] theorem rewritten_of_nil {r : Rule} (h : r.rewrites = []) (rolls : Rolls) (actor : Actor)
    (text : String) : r.rewritten rolls actor text = text := by
  simp [rewritten, h]

end Moderation.Rule

namespace Moderation.Engine.Context
open Moderation.Text

/-- What is recorded about a rule that matches and asks for it. -/
def violationEffects (ctx : Context) (r : Rule) (kind : EventKind) (actor : Actor) (text : String) :
    List Effect :=
  let start := signPrefix kind actor
  if !r.logs then []
  else
    (if ctx.settings.verbose then []
    else [.log ⟨.info, start ++ actor.name ++ " violated " ++ r.short ++ " with message: " ++
      stripColors text, [("player", actor.name), ("rule", r.short)]⟩]) ++
    [.audit ⟨.ruleViolation, some actor.name, start ++ r.short ++ " caught message: " ++ text⟩]

def noticeEffects (ctx : Context) (r : Rule) (actor : Actor) (text : String) : List Effect :=
  match r.notice with
  | some n =>
    let message := colorize ((Placeholders.of r.id actor text).fill n.message)
    (ctx.holders n.permission).map fun a => tellLater a.name message
  | none => []

/-- What a rule that matches does before the text is changed. -/
def openingEffects (ctx : Context) (r : Rule) (kind : EventKind) (actor : Actor) (text : String) :
    List Effect :=
  [.count (.ruleMatch kind.label)] ++
    ctx.matchLines ("*--------- Rule match on " ++ actor.name ++ " --------- ID " ++ r.name) r text ++
    ctx.violationEffects r kind actor text ++ ctx.noticeEffects r actor text

def replaced (ctx : Context) (chance : Chance) (r : Rule) (actor : Actor) (text : String) :
    Work String :=
  match pick chance.rolls.replacement r.replacements with
  | some replacement =>
    ctx.budget.replace chance.pace.replacement .keepColors r.pattern text
      (colorize ((Placeholders.of r.id actor text).fill replacement))
  | none => pure text

def handled (ctx : Context) (pace : Pace) (r : Rule) (kind : EventKind) (actor : Actor) (p : Pass) :
    Work Pass :=
  match r.handler with
  | some h => ctx.applyHandler pace h r kind actor p
  | none => pure p

def fire (ctx : Context) (chance : Chance) (r : Rule) (kind : EventKind) (actor : Actor) (p : Pass) :
    Work Pass := do
  .emitAll (ctx.openingEffects r kind actor p.text)
  let p ← ctx.handled chance.pace r kind actor p
  if p.cancelled then return p
  let text ← ctx.replaced chance r actor (r.rewritten chance.rolls actor p.text)
  .emitAll (r.closingEffects actor text)
  return { p with text, cancelled := r.cancels }

@[simp] theorem replaced_of_nil {r : Rule} (h : r.replacements = []) (ctx : Context) (chance : Chance)
    (actor : Actor) (text : String) : ctx.replaced chance r actor text = pure text := by
  simp [replaced, h]

end Moderation.Engine.Context
