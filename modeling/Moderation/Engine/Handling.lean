import Moderation.Engine.Context
import Moderation.Engine.Message

/-!
Handlers at work: what a handler sends and records, what becomes of the text, and whether the player
is held back.
-/
namespace Moderation.Engine

/-- The messages of handlers that were sent last in an evaluation; they are not sent twice in a
row. -/
structure Scope where
  warning : Option String := none
  broadcast : Option String := none
deriving DecidableEq, Repr

def Scope.after (s : Scope) (h : Handler) : Scope :=
  ⟨h.warning.or s.warning, h.broadcast.or s.broadcast⟩

/-- A text in the course of an evaluation. -/
structure Pass where
  text : String
  scope : Scope := {}
  cancelled : Bool := false
deriving DecidableEq, Repr

end Moderation.Engine

namespace Moderation.Handler
open Moderation.Engine Moderation.Text

/-- Whether a handler does nothing about a text. -/
def lets (h : Handler) (kind : EventKind) (actor : Actor) (text : String) : Bool :=
  h.bypass.any actor.holds ||
    (kind == .command && h.ignoredCommands.any (beginsWith · text))

/-- The warning of a handler, unless it was the last one. It comes at once if the handler blocks. -/
def warningEffects (h : Handler) (values : Placeholders) (actor : Actor) (s : Scope) : List Effect :=
  match h.warning with
  | some warning =>
    if s.warning = some warning then []
    else [tellWhen h.blocks actor.name (colorize (values.fill warning))]
  | none => []

/-- The broadcast of a handler, unless it was the last one. -/
def broadcastEffects (h : Handler) (values : Placeholders) (s : Scope) : List Effect :=
  match h.broadcast with
  | some message =>
    if s.broadcast = some message then []
    else [.act (.broadcast (colorize (values.fill message)))]
  | none => []

def alertEffects (h : Handler) (values : Placeholders) (start : String)
    (holders : String → List Actor) : List Effect :=
  match h.alert with
  | some alert =>
    let message := colorize (start ++ values.fill alert.message)
    (holders alert.permission).map fun a => .act (.tell a.name message)
  | none => []

/-- What a handler leaves in records and asks of the console, and the fine. -/
def recordEffects (h : Handler) (values : Placeholders) (actor : Actor) (text : String) :
    List Effect :=
  (h.console.toList.map fun message =>
    .log ⟨.info, stripColors (colorize (values.fill message)), [("handler", h.name)]⟩) ++
  (h.commands.flatMap fun command => customCommand actor text (values.fill command)) ++
  (h.file.toList.map fun target =>
    .audit ⟨.handlerFile target, some actor.name,
      values.fill "[Handler=\x7bhandler\x7d, Rule ID=\x7bruleID\x7d] " ++ text⟩) ++
  (h.fine.toList.map fun amount => .act (.withdraw actor.name amount))

@[simp] theorem warningEffects_after (h : Handler) (values : Placeholders) (actor : Actor)
    (s : Scope) : h.warningEffects values actor (s.after h) = [] := by
  cases hw : h.warning <;> simp [warningEffects, Scope.after, hw]

@[simp] theorem broadcastEffects_after (h : Handler) (values : Placeholders) (s : Scope) :
    h.broadcastEffects values (s.after h) = [] := by
  cases hb : h.broadcast <;> simp [broadcastEffects, Scope.after, hb]

end Moderation.Handler

namespace Moderation.Engine.Context
open Moderation.Text

/-- Everything that a handler does but change the text. -/
def handlerEffects (ctx : Context) (h : Handler) (kind : EventKind) (values : Placeholders)
    (actor : Actor) (p : Pass) : List Effect :=
  h.warningEffects values actor p.scope ++ h.broadcastEffects values p.scope ++
    h.alertEffects values (signPrefix kind actor) ctx.holders ++
    h.recordEffects values actor p.text

def handlerText (ctx : Context) (pace : Pace) (h : Handler) (r : Rule) (values : Placeholders)
    (text : String) : Work String :=
  match h.outcome with
  | .replaceWord word =>
    ctx.budget.replace pace.handler .normalized r.pattern text (colorize (values.fill word))
  | .replaceWhole whole => pure (colorize (values.fill whole))
  | .pass => pure text
  | .block => pure text

/-- A handler at work for a rule that matches. It cancels if it blocks, and signs always if the
settings say so. -/
def applyHandler (ctx : Context) (pace : Pace) (h : Handler) (r : Rule) (kind : EventKind)
    (actor : Actor) (p : Pass) : Work Pass := do
  if h.lets kind actor p.text then return p
  let values := (Placeholders.of r.id actor p.text).withHandler h.name
  .emitAll (ctx.handlerEffects h kind values actor p)
  let p := { p with scope := p.scope.after h }
  if h.blocks || (kind == .sign && ctx.settings.blockSigns) then
    return { p with cancelled := true }
  else return { p with text := ← ctx.handlerText pace h r values p.text }

theorem applyHandler_of_lets {ctx : Context} {h : Handler} {kind : EventKind} {actor : Actor}
    {p : Pass} (hl : h.lets kind actor p.text = true) (pace : Pace) (r : Rule) :
    ctx.applyHandler pace h r kind actor p = pure p := by
  simp [applyHandler, hl]

end Moderation.Engine.Context
