import FunctionAgent.Proofs.Record
/-!
# Redaction

To redact is to strike out the secrets: the values of tokens and the session information of calls.
The agent takes the same steps with them struck out (`World.step_redact`), since it passes them on
and never looks at them.
-/

set_option autoImplicit false

namespace FunctionAgent

/-! ## What holds secrets -/

namespace Call

def redact (c : Call) : Call := { c with sessionInfo := [] }

@[simp] theorem id_redact (c : Call) : c.redact.id = c.id := rfl

end Call

def Token.redact (_ : Token) : Token := ⟨""⟩

namespace Payload

def redact : Payload → Payload
  | .call c => .call c.redact
  | .registration record => .registration record
  | .token t => .token t.redact
  | .reconnect notice => .reconnect notice

@[simp] theorem name_redact (p : Payload) : p.redact.name = p.name := by cases p <;> rfl

end Payload

namespace Update

def redact (u : Update) : Update := { u with payload := u.payload.map Payload.redact }

@[simp] theorem kind_redact (u : Update) : u.redact.kind = u.kind := rfl

@[simp] theorem redact_redact (u : Update) : u.redact.redact = u.redact := by
  obtain ⟨kind, response, description, payload⟩ := u
  rcases payload with _ | payload
  · rfl
  · cases payload <;> rfl

@[simp] theorem payload_redact (u : Update) : u.redact.payload = u.payload.map Payload.redact := rfl

end Update

namespace Message

def redact : Message → Message
  | .registration record => .registration record
  | .answer call outcome description => .answer call.redact outcome description
  | .tokenTaken t => .tokenTaken t.redact

@[simp] theorem redact_started (call : Call) : (started call).redact = started call.redact := rfl

@[simp] theorem redact_refused (call : Call) (reason : String) :
    (refused call reason).redact = refused call.redact reason := rfl

theorem toUpdate_redact (m : Message) : m.redact.toUpdate = m.toUpdate.redact := by
  cases m <;> rfl

/-- How a message is shown does not depend on what it holds in secret. -/
@[simp] theorem render_redact (m : Message) : m.redact.render = m.render := by cases m <;> rfl

end Message

namespace Bearer

def redact (b : Bearer) : Bearer := b.map fun _ => ""

theorem render_redact (b : Bearer) : b.redact.render = b.render := by cases b <;> rfl

end Bearer

/-! ## Streams -/

section Streams

variable {α β σ ρ : Type}

/-- A change at one place is the same before and after all are mapped. -/
theorem modify_map {h : α → β} {f : α → α} {g : β → β} (same : ∀ a, g (h a) = h (f a))
    (l : List α) (i : Nat) : (l.map h).modify i g = (l.modify i f).map h := by
  induction l generalizing i with
  | nil => cases i <;> rfl
  | cons a l ih =>
    cases i with
    | zero => simp [same]
    | succ i => simp [ih]

namespace Inbound

def map (f : α → β) (i : Inbound α) : Inbound β := ⟨i.queue.map f, i.ended⟩

theorem push_map (f : α → β) (i : Inbound α) (a : α) : (i.map f).push (f a) = (i.push a).map f := by
  simp [push, map]

theorem receive_map (f : α → β) (i : Inbound α) :
    (i.map f).receive = (i.receive.1.map (Option.map f), i.receive.2.map f) := by
  obtain ⟨queue, ended⟩ := i
  cases queue with
  | cons => rfl
  | nil => cases ended <;> rfl

theorem render_map (f : α → β) (i : Inbound α) : (i.map f).render = i.render := by
  unfold render
  simp [map]

end Inbound

namespace Outbound

def map (f : α → β) (o : Outbound α) : Outbound β :=
  ⟨o.capacity, o.queue.map f, o.peer, o.isStopped, o.latched, o.limit⟩

theorem write?_map (f : α → β) (o : Outbound α) (a : α) :
    (o.map f).write? (f a) = (o.write? a).map fun written => (written.1, written.2.map f) := by
  obtain ⟨capacity, queue, peer, isStopped, latched, limit⟩ := o
  cases latched with
  | some fault => rfl
  | none =>
    simp only [write?, map, List.length_map]
    split
    · rfl
    · split
      · rfl
      · split
        · simp
        · rfl

theorem act_map (f : α → β) (o : Outbound α) (act : Act) :
    ((o.map f).act act).2 = (o.act act).2.map f := by
  obtain ⟨capacity, queue, peer, isStopped, latched, limit⟩ := o
  cases act with
  | abandon => rfl
  | shut => cases peer <;> rfl
  | read =>
    cases peer with
    | gone => rfl
    | shut => cases queue <;> rfl
    | reading =>
      cases queue with
      | cons => rfl
      | nil => cases isStopped <;> rfl

theorem render_map (f : α → β) (o : Outbound α) : (o.map f).render = o.render := rfl

end Outbound

namespace Duplex

def map (f : ρ → α) (g : σ → β) (d : Duplex σ ρ) : Duplex β α :=
  ⟨d.inbound.map f, d.outbound.map g, d.isFed⟩

variable (f : ρ → α) (g : σ → β) (d : Duplex σ ρ)

theorem deliver_map (a : ρ) : (d.map f g).deliver (f a) = (d.deliver a).map f g := by
  obtain ⟨inbound, outbound, isFed⟩ := d
  cases isFed with
  | false => rfl
  | true => simp [deliver, map, Inbound.push_map]

theorem endFeed_map (how : StreamEnd) : (d.map f g).endFeed how = (d.endFeed how).map f g := by
  obtain ⟨inbound, outbound, isFed⟩ := d
  cases isFed <;> rfl

theorem receive_map :
    (d.map f g).receive = (d.receive.1.map (Option.map f), d.receive.2.map f g) := by
  simp [receive, map, Inbound.receive_map]

theorem render_map : (d.map f g).render = d.render := by
  unfold render
  rw [show (d.map f g).inbound.render = _ from d.inbound.render_map f,
    show (d.map f g).outbound.render = _ from d.outbound.render_map g]

end Duplex

end Streams

/-! ## Sessions -/

namespace Session

def redact (s : Session) : Session := ⟨s.bearer.redact, s.stream.map Update.redact Update.redact⟩

variable (s : Session)

theorem receive_redact :
    s.redact.receive = (s.receive.1.map (Option.map Update.redact), s.receive.2.redact) := by
  have received : s.redact.stream.receive = _ := s.stream.receive_map Update.redact Update.redact
  simp only [receive, received]
  cases s.stream.receive.1 <;> rfl

theorem refresh_redact (token : String) : s.redact.refresh "" = (s.refresh token).redact := rfl

theorem stop_redact : s.redact.stop = s.stop.redact := rfl

theorem withOutbound_redact (o : Outbound Update) :
    s.redact.withOutbound (o.map Update.redact) = (s.withOutbound o).redact := rfl

/-- What the broker does, with the secrets struck out. -/
def PeerAct.redact : PeerAct → PeerAct
  | .deliver update => .deliver update.redact
  | .endFeed how => .endFeed how
  | .outbound act => .outbound act

theorem peerAct_redact (act : PeerAct) : s.redact.peerAct act.redact = (s.peerAct act).redact := by
  cases act with
  | deliver update =>
    exact congrArg (Session.mk s.bearer.redact)
      (s.stream.deliver_map Update.redact Update.redact update)
  | endFeed how =>
    exact congrArg (Session.mk s.bearer.redact)
      (s.stream.endFeed_map Update.redact Update.redact how)
  | outbound act =>
    exact congrArg s.redact.withOutbound (s.stream.outbound.act_map Update.redact act)

theorem render_redact : s.redact.render = s.render := by
  unfold render
  rw [show s.redact.bearer.render = _ from s.bearer.render_redact,
    show s.redact.stream.render = _ from s.stream.render_map _ _]

end Session

namespace Agent

/-! ## The agent -/

def Control.redact : Control → Control
  | .writing task message deadline => .writing task message.redact deadline
  | .handling u => .handling u.redact
  | .starting call deadline => .starting call.redact deadline
  | control => control

def World.redact (w : World) : World :=
  { w with sessions := w.sessions.map Session.redact, control := w.control.redact }

def Happening.redact : Happening → Happening
  | .taken i u => .taken i u.redact
  | .refreshed i _ => .refreshed i ""
  | .starting f _ => .starting f []
  | .written i message result => .written i message.redact result
  | happening => happening

def Move.redact (m : Move) : Move := ⟨m.world.redact, m.happened.map Happening.redact⟩

def Act.redact : Act → Act
  | .peer i act => .peer i act.redact
  | .answerOpen answer => .answerOpen (answer.map Session.redact)
  | act => act

namespace World

variable (w : World)

@[simp] theorem settings_redact : w.redact.settings = w.settings := rfl

@[simp] theorem clock_redact : w.redact.clock = w.clock := rfl

@[simp] theorem roster_redact : w.redact.roster = w.roster := rfl

@[simp] theorem held_redact : w.redact.held = w.held := rfl

@[simp] theorem failures_redact : w.redact.failures = w.failures := rfl

@[simp] theorem phase_redact : w.redact.phase = w.phase := rfl

@[simp] theorem isShutdown_redact : w.redact.isShutdown = w.isShutdown := rfl

@[simp] theorem control_redact : w.redact.control = w.control.redact := rfl

@[simp] theorem session_redact (i : Nat) : w.redact.session i = (w.session i).redact := by
  simp only [session, redact, List.getD_eq_getElem?_getD, List.getElem?_map]
  cases w.sessions[i]? <;> rfl

@[simp] theorem current_redact : w.redact.current = w.current.redact := w.session_redact w.held

/-- A change of a session that heeds no secrets. -/
theorem onSession_redact (i : Nat) {f g : Session → Session}
    (same : ∀ s, g s.redact = (f s).redact) :
    w.redact.onSession i g = (w.onSession i f).redact := by
  simp only [onSession, redact, modify_map same]

@[simp] theorem wake?_redact : w.redact.wake? = w.wake? := by
  unfold wake?
  rw [control_redact]
  cases w.control <;> rfl

end World

namespace Move

variable (m : Move)

@[simp] theorem redact_stay (w : World) : (stay w).redact = stay w.redact := rfl

@[simp] theorem redact_happen (h : Happening) : (m.happen h).redact = m.redact.happen h.redact := by
  simp [redact, happen]

@[simp] theorem redact_log (level : Level) (message : String) (fields : List (String × String)) :
    (m.log level message fields).redact = m.redact.log level message fields :=
  m.redact_happen _

theorem redact_onSession (i : Nat) {f g : Session → Session}
    (same : ∀ s, g s.redact = (f s).redact) :
    (m.change fun w => w.onSession i f).redact = m.redact.change fun w => w.onSession i g :=
  congrArg (Move.mk · (m.happened.map Happening.redact)) (m.world.onSession_redact i same).symm

@[simp] theorem redact_goto (control : Control) :
    (m.goto control).redact = m.redact.goto control.redact := rfl

@[simp] theorem redact_publish (phase : Phase) :
    (m.publish phase).redact = m.redact.publish phase := by
  have same : m.redact.world.phase = m.world.phase := rfl
  unfold publish
  rw [same]
  split
  · rfl
  · simp only [redact_log, redact_happen]
    rfl

@[simp] theorem redact_close (i : Nat) : (m.close i).redact = m.redact.close i := by
  rw [close, redact_happen, m.redact_onSession i Session.stop_redact]
  rfl

@[simp] theorem redact_askSession (purpose : Purpose) :
    (m.askSession purpose).redact = m.redact.askSession purpose := by
  simp [askSession, Control.redact, Happening.redact]

@[simp] theorem redact_drain (result : Result) :
    (m.drain result).redact = m.redact.drain result := by
  simp only [drain, redact_goto, redact_publish]
  rfl

@[simp] theorem redact_escalate (failure : SessionFailure) :
    (m.escalate failure).redact = m.redact.escalate failure := by
  unfold escalate
  split <;> simp [Control.redact]

@[simp] theorem redact_handled : m.handled.redact = m.redact.handled := rfl

@[simp] theorem redact_unopened (purpose : Purpose) (failure : SessionFailure) :
    (m.unopened purpose failure).redact = m.redact.unopened purpose failure := by
  have same : m.redact.world.settings = m.world.settings := rfl
  cases purpose with
  | start => rfl
  | recover attempt => simp [unopened, Control.redact]
  | connect limit failed =>
    simp only [unopened, same]
    split
    · rfl
    · split
      · simp [Control.redact]
      · split
        · rfl
        · simp only [redact_goto, redact_log]
          rfl

@[simp] theorem redact_reply (message : Message) :
    (m.reply message).redact = m.redact.reply message.redact := rfl

@[simp] theorem redact_answerCall (call : Call) (outcome : Except CallFailure Unit) :
    (m.answerCall call outcome).redact = m.redact.answerCall call.redact outcome := by
  cases outcome <;> simp [answerCall]

@[simp] theorem redact_launch (call : Call) :
    (m.launch call).redact = m.redact.launch call.redact := by
  have same : m.redact.world.roster = m.world.roster := rfl
  simp only [launch, same, Call.id_redact]
  split
  · simp
  · simp only [redact_goto, redact_happen]
    rfl

@[simp] theorem redact_written (task : Task) (result : Except WriteFault Unit) :
    (m.written task result).redact = m.redact.written task result := by
  cases task <;> cases result <;> simp [written, Control.redact]

end Move

namespace World

variable (w : World)

theorem redact_rest (result : Result) : (w.rest result).redact = w.redact.rest result := by
  simp [rest, Control.redact]

theorem redact_recover (cause : SessionFailure) :
    (w.recover cause).redact = w.redact.recover cause := by
  simp only [recover, settings_redact, failures_redact, isShutdown_redact, held_redact,
    clock_redact, apply_ite Move.redact]
  cases w.settings.backoff.times? (w.failures + 1) with
  | none | some =>
    simp only [Move.redact_drain, Move.redact_askSession, Move.redact_goto, Move.redact_close,
      Move.redact_log, Move.redact_publish]
    rfl

theorem redact_offered (purpose : Purpose) (i : Nat) :
    (w.offered purpose i).redact = w.redact.offered purpose i := by
  cases purpose with
  | start | connect =>
    simp only [offered, Move.redact_goto, Move.redact_log]
    rfl
  | recover attempt =>
    simp only [offered, Move.redact_goto, Move.redact_log, Move.redact_publish]
    rfl

theorem target_redact (task : Task) : w.redact.target task = w.target task := by cases task <;> rfl

theorem redact_settle (task : Task) (message : Message) (outcome : Outbound.Written Update) :
    (w.settle task message outcome).redact =
      w.redact.settle task message.redact (outcome.1, outcome.2.map Update.redact) := by
  simp only [settle, Move.redact_written, Move.redact_happen, target_redact]
  rw [Move.redact_onSession (g := fun s => s.withOutbound (outcome.2.map Update.redact)) _ _
    fun s => s.withOutbound_redact outcome.2]
  rfl

theorem redact_write (task : Task) (message : Message) (deadline : Option Nat) :
    (w.write task message deadline).map Move.redact =
      w.redact.write task message.redact deadline := by
  have target : (w.redact.session (w.target task)).stream.outbound
      = (w.session (w.target task)).stream.outbound.map Update.redact := by
    rw [session_redact]
    rfl
  simp only [write, target_redact, target, Message.toUpdate_redact, Outbound.write?_map]
  cases (w.session (w.target task)).stream.outbound.write? message.toUpdate with
  | some outcome => exact congrArg some (w.redact_settle task message outcome)
  | none =>
    cases deadline with
    | none => rfl
    | some deadline =>
      simp only [Option.map_none, apply_ite (Option.map Move.redact), Option.map_some,
        redact_settle]
      rfl

theorem redact_turn : w.turn.redact = w.redact.turn := by
  have takes := (Move.stay w).redact_onSession (f := fun s => s.receive.2)
    (g := fun s => s.receive.2) w.held fun s => congrArg Prod.snd s.receive_redact
  simp only [turn, isShutdown_redact, held_redact, current_redact, Session.receive_redact,
    settings_redact, clock_redact, apply_ite Move.redact]
  rcases w.current.receive.1 with failure | _ | update
  · simp only [Except.map, Move.redact_drain, Move.redact_escalate, takes, Move.redact_stay]
  · simp only [Except.map, Move.redact_drain, Move.redact_goto, takes, Move.redact_stay,
      Option.map_none]
    rfl
  · simp only [Except.map, Move.redact_drain, Move.redact_goto, Move.redact_happen, takes,
      Move.redact_stay, Option.map_some]
    rfl

theorem redact_ignore (u : Update) : (w.ignore u).redact = w.redact.ignore u.redact := by
  simp [ignore, Function.comp_def]

theorem redact_handle (u : Update) : (w.handle u).redact = w.redact.handle u.redact := by
  unfold handle
  rw [Update.payload_redact]
  rcases u.payload with _ | payload
  · exact w.redact_ignore u
  · cases payload with
    | registration record => exact w.redact_ignore u
    | reconnect notice =>
      simp only [Option.map_some, Payload.redact, Move.redact_escalate, Move.redact_log]
      rfl
    | token token =>
      have refreshes := ((Move.stay w).log .debug "Received token refresh" []).redact_onSession
        (f := fun s => s.refresh token.value) (g := fun s => s.refresh token.redact.value) w.held
        fun s => s.refresh_redact token.value
      simp only [Option.map_some, Payload.redact, Move.redact_reply, Move.redact_happen, refreshes,
        Move.redact_log]
      rfl
    | call call =>
      simp only [Option.map_some, Payload.redact, apply_ite Move.redact, Move.redact_launch,
        Move.redact_log, redact_ignore]
      rfl

theorem redact_started (call : Call) (outcome : Except StartFailure Unit) :
    (w.started call outcome).redact = w.redact.started call.redact outcome := by
  simp [started]

theorem redact_proceed : w.proceed.map Move.redact = w.redact.proceed := by
  unfold proceed
  rw [control_redact]
  cases w.control with
  | offering purpose i todo =>
    cases todo with
    | nil => exact congrArg some (w.redact_offered purpose i)
    | cons f todo => rfl
  | writing task message deadline => exact w.redact_write task message deadline
  | retrying limit failures wake => exact apply_ite (Option.map Move.redact) _ _ _
  | looping => exact congrArg some w.redact_turn
  | handling u => exact congrArg some (w.redact_handle u)
  | starting call deadline =>
    simp only [apply_ite (Option.map Move.redact), Option.map_some, redact_started]
    rfl
  | resting wake => exact apply_ite (Option.map Move.redact) _ _ _
  | recovering cause => exact congrArg some (w.redact_recover cause)
  | backingOff attempt wake =>
    simp only [apply_ite (Option.map Move.redact)]
    rfl
  | draining todo result =>
    cases todo with
    | nil => exact congrArg some (w.redact_rest result)
    | cons f todo => rfl
  | opening | ready | finished | unstarted | dropped | overflowed => rfl

@[simp] theorem isWaiting_redact : w.redact.isWaiting = w.isWaiting := by
  rw [isWaiting, ← redact_proceed, Option.isNone_map]
  rfl

@[simp] theorem mayElapse_redact (ms : Nat) : w.redact.mayElapse ms = w.mayElapse ms := by
  rw [mayElapse, isWaiting_redact, wake?_redact]
  rfl

theorem redact_requestShutdown : w.requestShutdown.redact = w.redact.requestShutdown := by
  simp only [requestShutdown, isShutdown_redact, apply_ite Move.redact]
  rfl

theorem redact_answerOpen (purpose : Purpose) (answer : Except SessionFailure Session) :
    (w.answerOpen purpose answer).redact =
      w.redact.answerOpen purpose (answer.map Session.redact) := by
  cases answer with
  | error failure => exact (Move.stay w).redact_unopened purpose failure
  | ok session =>
    simp [answerOpen, Except.map, Move.redact, Move.change, Move.goto, Move.stay, redact,
      Control.redact]

theorem redact_act (act : Act) : (w.act act).map Move.redact = w.redact.act act.redact := by
  cases act with
  | peer i act =>
    exact congrArg (some <| Move.stay ·) (w.onSession_redact i fun s => s.peerAct_redact act).symm
  | requestShutdown => exact congrArg some w.redact_requestShutdown
  | answerOpen answer =>
    simp only [World.act, Act.redact, control_redact]
    cases w.control with
    | opening purpose => exact congrArg some (w.redact_answerOpen purpose answer)
    | _ => rfl
  | answerStart answer =>
    simp only [World.act, Act.redact, control_redact]
    cases w.control with
    | starting call deadline => exact congrArg some (w.redact_started call answer)
    | _ => rfl
  | run =>
    simp only [World.act, Act.redact, control_redact]
    cases w.control <;> rfl
  | drop =>
    simp only [World.act, Act.redact, control_redact]
    cases w.control with
    | ready => simp [Control.redact]
    | _ => rfl
  | endPause =>
    simp only [World.act, Act.redact, control_redact]
    cases w.control with
    | backingOff attempt wake => exact apply_ite (Option.map Move.redact) _ _ _
    | _ => rfl
  | elapse ms =>
    simp only [World.act, Act.redact, mayElapse_redact]
    exact apply_ite (Option.map Move.redact) _ _ _

/-- The agent takes the same step with the secrets struck out. -/
theorem step_redact (act : Option Act) :
    w.redact.step (act.map Act.redact) = (w.step act).map Move.redact := by
  cases act with
  | none => exact w.redact_proceed.symm
  | some act => exact (w.redact_act act).symm

end World

end Agent

end FunctionAgent
