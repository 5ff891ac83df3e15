import Moderation.Proofs.Engine.Delivery
import Moderation.Proofs.Engine.Faults
import Moderation.Proofs.Engine.Trial

/-!
Messages for those who hold a permission: the notices of rules and the alerts of handlers. One firing
sends such a message once to each holder online and to nobody else. With names that nobody shares, and
with what becomes of messages on a server, each holder gets it once.
-/
namespace Moderation
open Engine Text

/-- A rule without its notice. -/
def Rule.withoutNotice (r : Rule) : Rule := { r with notice := none }

/-- A handler without its alert. -/
def Handler.withoutAlert (h : Handler) : Handler := { h with alert := none }

/-- A rule whose handler has no alert. -/
def Rule.withoutAlert (r : Rule) : Rule := { r with handler := r.handler.map Handler.withoutAlert }

namespace Engine.Context
variable {ctx : Context} {pace : Pace} {chance : Chance} {kind : EventKind} {actor : Actor}
  {r : Rule} {p : Pass} {state : State} {h : Handler}

/-- Among effects something is sent once to each player online who holds a permission, and to nobody
else. The rest of what is seen of the effects is what is seen of others. -/
def Sends (ctx : Context) (permission : String) (send : String → Effect)
    (es others : List Effect) : Prop :=
  ∃ (start rest : List Effect) (names : List String), es = start ++ names.map send ++ rest ∧
    visible (start ++ rest) = visible others ∧ names.Nodup ∧
    ∀ name, name ∈ names ↔ ∃ a ∈ ctx.online, a.name = name ∧ a.holds permission = true

/-- What is sent to the holders of a permission is sent once to each if no two players online have
the same name. -/
lemma sends_holders (hn : (ctx.online.map Actor.name).Nodup) (permission : String)
    (send : String → Effect) :
    ctx.Sends permission send ((ctx.holders permission).map fun a => send a.name) [] := by
  refine ⟨[], [], (ctx.holders permission).map Actor.name, by simp, rfl,
    hn.sublist (List.filter_sublist.map _), fun name => ?_⟩
  simp only [holders, List.mem_map, List.mem_filter]
  grind

lemma Sends.around {permission : String} {send : String → Effect} {es others : List Effect}
    (h : ctx.Sends permission send es others) {before before' : List Effect}
    (hbefore : visible before = visible before') (after : List Effect) :
    ctx.Sends permission send (before ++ es ++ after) (before' ++ others ++ after) := by
  obtain ⟨start, rest, names, rfl, hothers, hnames⟩ := h
  refine ⟨before ++ start, rest ++ after, names, by simp, ?_, hnames⟩
  simp only [visible_append, ← hothers, hbefore, List.append_assoc]

/-- What a rule does after its handler. -/
def finish (ctx : Context) (chance : Chance) (r : Rule) (actor : Actor) (p : Pass) : Work Pass := do
  if p.cancelled then return p
  let text ← ctx.replaced chance r actor (r.rewritten chance.rolls actor p.text)
  .emitAll (r.closingEffects actor text)
  return { p with text, cancelled := r.cancels }

lemma effects_fire (ctx : Context) (chance : Chance) (r : Rule) (kind : EventKind) (actor : Actor)
    (p : Pass) (state : State) :
    let done := ctx.handled chance.pace r kind actor p state
    (ctx.fire chance r kind actor p state).effects =
      ctx.openingEffects r kind actor p.text ++
        (done.effects ++ (ctx.finish chance r actor done.value done.state).effects) := rfl

/-- One firing of a rule sends its notice, and does else what it does without it. -/
theorem sends_notice (hn : (ctx.online.map Actor.name).Nodup) {n : Notice}
    (hr : r.notice = some n) :
    ctx.Sends n.permission
      (tellLater · (colorize ((Placeholders.of r.id actor p.text).fill n.message)))
      (ctx.fire chance r kind actor p state).effects
      (ctx.fire chance r.withoutNotice kind actor p state).effects := by
  have hnotice : ctx.noticeEffects r actor p.text = (ctx.holders n.permission).map fun a =>
      tellLater a.name (colorize ((Placeholders.of r.id actor p.text).fill n.message)) := by
    rw [noticeEffects, hr]
  rw [effects_fire, effects_fire, openingEffects, openingEffects, hnotice]
  refine (sends_holders hn _ _).around ?_ _
  simp only [visible_append, visible_matchLines]
  rfl

lemma visible_openingEffects_withoutAlert (text : String) :
    visible (ctx.openingEffects r.withoutAlert kind actor text) =
      visible (ctx.openingEffects r kind actor text) := by
  simp only [openingEffects, visible_append, visible_matchLines]
  rfl

lemma acting?_withoutAlert (ha : r.acting? kind actor p.text = some h) :
    r.withoutAlert.acting? kind actor p.text = some h.withoutAlert := by
  obtain ⟨hh, hl⟩ := Option.filter_eq_some_iff.1 ha
  exact Option.filter_eq_some_iff.2 ⟨by rw [Rule.withoutAlert, hh]; rfl, hl⟩

/-- A handler sends its alert, and does else what it does without it. -/
lemma sends_handlerEffects (hn : (ctx.online.map Actor.name).Nodup) {alert : StaffAlert}
    (hh : h.alert = some alert) (values : Placeholders) (kind : EventKind) (actor : Actor)
    (p : Pass) :
    ctx.Sends alert.permission
      (fun name => .act (.tell name (colorize (signPrefix kind actor ++ values.fill alert.message))))
      (ctx.handlerEffects h kind values actor p)
      (ctx.handlerEffects h.withoutAlert kind values actor p) := by
  have halert : h.alertEffects values (signPrefix kind actor) ctx.holders =
      (ctx.holders alert.permission).map fun a =>
        .act (.tell a.name (colorize (signPrefix kind actor ++ values.fill alert.message))) := by
    rw [Handler.alertEffects, hh]
  rw [handlerEffects, halert]
  exact (sends_holders hn _ _).around rfl _

lemma handled_withoutAlert (hn : (ctx.online.map Actor.name).Nodup)
    (ha : r.acting? kind actor p.text = some h) {alert : StaffAlert} (hh : h.alert = some alert)
    (state : State) :
    let done := ctx.handled pace r kind actor p state
    let quiet := ctx.handled pace r.withoutAlert kind actor p state
    quiet.value = done.value ∧ quiet.state = done.state ∧
      ctx.Sends alert.permission
        (fun name => .act (.tell name (colorize (signPrefix kind actor ++
          ((Placeholders.of r.id actor p.text).withHandler h.name).fill alert.message))))
        done.effects quiet.effects := by
  have hsends := sends_handlerEffects hn hh
    ((Placeholders.of r.id actor p.text).withHandler h.name) kind actor p
  simp only [handled_of_acting ha, handled_of_acting (acting?_withoutAlert ha)]
  cases hb : (h.blocks || (kind == .sign && ctx.settings.blockSigns)) with
  | true =>
    have hb' : (h.withoutAlert.blocks || (kind == .sign && ctx.settings.blockSigns)) = true := hb
    simp only [hb', if_true, true_and]
    exact ⟨rfl, hsends⟩
  | false =>
    have hb' : (h.withoutAlert.blocks || (kind == .sign && ctx.settings.blockSigns)) = false := hb
    simp only [hb', Bool.false_eq_true, if_false]
    exact ⟨rfl, rfl, hsends.around (rfl : visible [] = visible []) _⟩

/-- One firing of the handler of a rule sends its alert, and the rule does else what it does without
it. -/
theorem sends_alert (hn : (ctx.online.map Actor.name).Nodup)
    (ha : r.acting? kind actor p.text = some h) {alert : StaffAlert} (hh : h.alert = some alert) :
    ctx.Sends alert.permission
      (fun name => .act (.tell name (colorize (signPrefix kind actor ++
        ((Placeholders.of r.id actor p.text).withHandler h.name).fill alert.message))))
      (ctx.fire chance r kind actor p state).effects
      (ctx.fire chance r.withoutAlert kind actor p state).effects := by
  obtain ⟨hvalue, hcache, hsends⟩ := handled_withoutAlert hn ha hh state
  rw [effects_fire, effects_fire, hvalue, hcache, ← List.append_assoc, ← List.append_assoc]
  exact hsends.around (visible_openingEffects_withoutAlert p.text).symm _

end Engine.Context

namespace Engine.Server
variable {s : Server}

/-- What becomes of messages and commands in a run of requests. What is left for later is done exactly
once, in its order, the next time that the server does what waits; what an evaluation does at once is
done at once. The records of the host are those of the events, and a message gets to its player exactly
if the player is in. Nobody shares a name, so a notice and an alert go once to each who is to get them. -/
structure Delivers (s : Server) (rs : List Request) : Prop where
  later : s.executed rs = s.deferred (rs.rdropWhile (!·.isRunPending))
  waiting : s.executed rs ++ (s.serveAll rs).waiting = s.deferred rs
  drained : ((s.serveAll rs).newEvents .runPending).filterMap Event.action? =
    (s.serveAll rs).waiting
  atOnce : ∀ r : Request, r.isRunPending = false →
    ((s.serveAll rs).newEvents r).filterMap Event.action? =
      ((s.serveAll rs).effectsOf r).filterMap Effect.act?
  records : (s.serveAll rs).host.Records (s.serveAll rs).journal.events
  delivered : ∀ (r : Request) (player message : String) (d : Bool),
    .told player message d ∈ (s.serveAll rs).newEvents r →
      (d = true ↔ ∃ a, IsIn rs a ∧ a.name = player)
  online : ∀ a, a ∈ (s.serveAll rs).host.online ↔ IsIn rs a
  names : ((s.serveAll rs).host.online.map Actor.name).Nodup
  notice : ∀ (chance : Chance) (r : Rule) (kind : EventKind) (actor : Actor) (p : Pass)
    (state : State) (n : Notice), r.notice = some n →
    let ctx := (s.serveAll rs).context
    ctx.Sends n.permission
      (tellLater · (colorize ((Placeholders.of r.id actor p.text).fill n.message)))
      (ctx.fire chance r kind actor p state).effects
      (ctx.fire chance r.withoutNotice kind actor p state).effects
  alert : ∀ (chance : Chance) (r : Rule) (kind : EventKind) (actor : Actor) (p : Pass)
    (state : State) (h : Handler) (alert : StaffAlert),
    r.acting? kind actor p.text = some h → h.alert = some alert →
    let ctx := (s.serveAll rs).context
    ctx.Sends alert.permission
      (fun name => .act (.tell name (colorize (signPrefix kind actor ++
        ((Placeholders.of r.id actor p.text).withHandler h.name).fill alert.message))))
      (ctx.fire chance r kind actor p state).effects
      (ctx.fire chance r.withoutAlert kind actor p state).effects

/-- From a start at which nobody is online and nothing waits, messages and commands are delivered in
every run. -/
theorem delivers_serveAll (hq : s.queue = []) (hh : s.host = {}) (hj : s.journal.events = [])
    (rs : List Request) : s.Delivers rs := by
  have hwaiting : s.waiting = [] := by rw [waiting, hq, List.map_nil]
  have hnames : ((s.serveAll rs).host.online.map Actor.name).Nodup :=
    nodup_serveAll s rs (by simp [hh])
  have honline (a : Actor) : a ∈ (s.serveAll rs).host.online ↔ IsIn rs a :=
    mem_online_serveAll s rs (by rw [hh])
  exact
    { later := executed_eq s rs hwaiting
      waiting := by rw [← waiting_append_deferred, hwaiting, List.nil_append]
      drained := actions_newEvents _ .runPending
      atOnce := fun r hr => by rw [actions_newEvents, hr]; rfl
      records := records_serveAll s rs (by rw [hh, hj]; constructor <;> rfl)
      delivered := fun r player message d hd => by
        rw [(reaches_serve _ r).delivered player message d hd, Host.isOnline, List.any_eq_true]
        simp only [honline, beq_iff_eq]
      online := honline
      names := hnames
      notice := fun _ _ _ _ _ _ _ hr => Context.sends_notice hnames hr
      alert := fun _ _ _ _ _ _ _ _ ha hh => Context.sends_alert hnames ha hh }

/-- A player who comes anew is alerted and gets a notice once, and one who has gone misses a warning. -/
theorem delivers_serveAll_of_quit :
    let alerting : Handler := { name := "spam", alert := some ⟨"alert", "staff"⟩ }
    let rule : Rule := { pattern := "spam", notice := some ⟨"staff", "notice"⟩, warning := some "stop",
                         handler := some alerting, kick := some "bye" }
    let s : Server := { settings := {}, rules := ⟨[(.chat, [rule])]⟩, audit := .memory [], time := "" }
    let alex : Actor := ⟨"alex", "world", .survival, ["staff"], none⟩
    let steve : Actor := ⟨"steve", "world", .survival, [], none⟩
    let rs : List Request := [.join alex, .join steve, .join alex,
      .evaluate [] [] .chat steve "spam", .quit "steve", .runPending, .runPending]
    s.queue = [] ∧ s.host = {} ∧ s.journal.events = [] ∧ s.Delivers rs ∧
      (s.serveAll rs).host.told = [("alex", "alert"), ("alex", "notice")] ∧
      s.executed rs =
        [.tell "alex" "notice", .tell "steve" "stop", .command "kick steve bye"] := by
  intro alerting rule s alex steve rs
  exact ⟨rfl, rfl, rfl, delivers_serveAll rfl rfl rfl rs, by decide +kernel, by decide +kernel⟩

end Engine.Server

end Moderation
