import FunctionAgent.Agent.World
/-!
# What the agent does

`proceed` is the next move of an agent that does not have to wait for anything, and `none` of one
that does. A dispatch loop takes one update after the other from the session that the agent holds.
It hands each the answer it needs, recovers the stream when it is lost, and withdraws the functions
when it is over.

A lost stream is recovered within a budget of attempts. They are counted until an update has been
handled, so that a broker that takes a session and drops it again uses the budget up as well. The
agent looks for a shutdown before it takes an update, when it has counted a failure, and while it
rests or pauses; work that has begun is carried through. When a pause before an attempt is over it
asks for the session without looking again, so a shutdown that is asked for just then may come too
late for this attempt. `proceed` is the move of an agent that notices it in time.
-/

set_option autoImplicit false

namespace FunctionAgent.Agent

namespace World

/-- The state in which an agent asks for its first session. -/
def create (settings : Settings) (functions : List Function) (purpose : Purpose) : Move :=
  (Move.stay
    { settings, clock := 0, roster := .ofList functions, sessions := [], held := 0, failures := 0,
      phase := .running, isShutdown := false, control := .ready }).askSession purpose

/-- What is left once every function was withdrawn. -/
def rest (w : World) (result : Result) : Move :=
  ((((Move.stay w).close w.held).publish .stopped).log .info "Launcher stopped" []).goto
    (.finished result)

end World

namespace Move

/-! ## Ends and failures -/

/-- Sets out to withdraw every function and to stop, with a result. -/
def drain (m : Move) (result : Result) : Move :=
  (m.publish .shuttingDown).goto (.draining m.world.roster result)

/-- A failure of the work on an update: a lost stream is recovered, any other failure ends the
agent. -/
def escalate (m : Move) (failure : SessionFailure) : Move :=
  if failure.isRecoverable then m.goto (.recovering failure)
  else (m.log .error "Dispatch loop failed" [("error", failure.message)]).drain (.error failure)

/-- The answer that an update needs was given, which restores the budget. -/
def handled (m : Move) : Move := (m.change fun w => { w with failures := 0 }).goto .looping

/-- No session came about, or the functions could not be offered on it. A start is tried again after
a pause that grows with the number of failures, a recovery as the budget allows. -/
def unopened (m : Move) (purpose : Purpose) (failure : SessionFailure) : Move :=
  match purpose with
  | .start => m.goto (.unstarted failure)
  | .connect limit failed =>
    let failures := failed + 1
    if Text.word32Max < failures then m.goto .overflowed
    else if limit ≤ failures then
      (m.log .error "Could not connect to broker"
        [("attempts", toString failures), ("error", failure.message)]).goto (.unstarted failure)
    else
      match m.world.settings.backoff.times? failures with
      | none => m.goto .overflowed
      | some pause =>
        (m.log .warn "Could not connect to broker, retrying"
          [("attempt", toString failures), ("remaining", toString (limit - failures)),
            ("retry_in", pause.render), ("error", failure.message)]).goto
          (.retrying limit failures (m.world.clock + pause.ticks))
  | .recover attempt =>
    (m.log .warn "Reconnect attempt failed"
      [("attempt", toString attempt), ("error", failure.message)]).goto (.recovering failure)

/-! ## Answering -/

/-- Sets out to answer an update. -/
def reply (m : Move) (message : Message) : Move := m.goto (.writing .answer message none)

/-- Answers a call by how its start went. -/
def answerCall (m : Move) (call : Call) : Except CallFailure Unit → Move
  | .ok () =>
    (m.log .info "Function started" [("function_id", call.id)]).reply (.started call)
  | .error failure =>
    (m.log .error "Function call failed"
      [("function_id", call.id), ("error", failure.message)]).reply (.refused call failure.message)

/-- Starts the function that a call names, if it is on offer. -/
def launch (m : Move) (call : Call) : Move :=
  match m.world.roster.resolve? call.id with
  | none => m.answerCall call (.error (.unknownFunction call.id))
  | some f =>
    (m.happen (.starting f call.sessionInfo)).goto
      (.starting call (m.world.clock + m.world.settings.dispatchTimeout.ticks))

/-! ## Writing -/

/-- Goes on after a message was written or could not be. -/
def written (m : Move) (task : Task) (result : Except WriteFault Unit) : Move :=
  match task, result with
  | .offer purpose i todo, .ok () => m.goto (.offering purpose i todo)
  | .offer purpose i _, .error fault => (m.close i).unopened purpose (Session.writeFailure fault)
  | .answer, .ok () => m.handled
  | .answer, .error fault => m.escalate (Session.writeFailure fault)
  | .withdraw _ todo result, .ok () => m.goto (.draining todo result)
  | .withdraw id todo result, .error fault =>
    (m.log .warn "Could not deregister function"
      [("function_id", id.render), ("error", (Session.writeFailure fault).message)]).goto
      (.draining todo result)

end Move

namespace World

/-! ## Recovering -/

/-- A lost stream uses up one attempt of the budget. The first attempt asks for a session at once,
a later one after a pause that grows with its number. -/
def recover (w : World) (cause : SessionFailure) : Move :=
  let max := w.settings.maxAttempts.toNat
  let attempt := w.failures + 1
  let m := (Move.stay w).change fun w => { w with failures := attempt }
  if Text.word32Max < attempt then m.goto .overflowed
  else if max < attempt then
    (m.log .error "Could not reconnect to broker, giving up"
      [("attempts", toString max), ("error", cause.message)]).drain (.error cause)
  else if w.isShutdown then m.goto .looping
  else
    let m := ((m.publish (.recovering attempt)).log .warn "Lost broker stream, reconnecting"
      [("attempt", toString attempt), ("remaining", toString (max - attempt)),
        ("error", cause.message)]).close w.held
    if attempt = 1 then m.askSession (.recover attempt)
    else
      match w.settings.backoff.times? attempt with
      | none => m.goto .overflowed
      | some pause => m.goto (.backingOff attempt (w.clock + pause.ticks))

/-! ## Announcing -/

/-- Sets out to announce a function in a state. -/
def announce (w : World) (f : Function) (state : Lifecycle) (task : Task) : Move :=
  ((Move.stay w).change fun w => { w with roster := w.roster.mark f.id state }).goto
    (.writing task (.announce f state) none)

/-- Every function was offered on a fresh session, which is in use from now on. -/
def offered (w : World) (purpose : Purpose) (i : Nat) : Move :=
  let m := ((Move.stay w).log .debug "Registered functions"
    [("count", toString w.roster.length)]).change fun w => { w with held := i }
  match purpose with
  | .start | .connect _ _ =>
    (m.log .info "Launcher running" [("functions", toString w.roster.length)]).goto .ready
  | .recover attempt =>
    ((m.publish .running).log .info "Reconnected to broker" [("attempt", toString attempt)]).goto
      .looping

/-- The session on which a task writes. -/
def target (w : World) : Task → Nat
  | .offer _ i _ => i
  | .answer | .withdraw _ _ _ => w.held

/-- Goes on with the outcome of a write. -/
def settle (w : World) (task : Task) (message : Message) (outcome : Outbound.Written Update) :
    Move :=
  (((Move.stay w).change fun v =>
      v.onSession (w.target task) fun s => s.withOutbound outcome.2).happen
    (.written (w.target task) message outcome.1)).written task outcome.1

/-- Writes a message. Without space the agent waits, but not for longer than the limit. -/
def write (w : World) (task : Task) (message : Message) (deadline : Option Nat) : Option Move :=
  let outbound := (w.session (w.target task)).stream.outbound
  match outbound.write? message.toUpdate, deadline with
  | some outcome, _ => some (w.settle task message outcome)
  | none, none =>
    some ((Move.stay w).goto (.writing task message (some (w.clock + outbound.limit.ticks))))
  | none, some deadline =>
    if deadline ≤ w.clock then some (w.settle task message outbound.giveUp) else none

/-! ## Dispatching -/

/-- One turn of the loop: an update is taken unless a shutdown was asked for. -/
def turn (w : World) : Move :=
  if w.isShutdown then (Move.stay w).drain (.ok ())
  else
    let m := (Move.stay w).change fun v => v.onSession w.held fun s => s.receive.2
    match w.current.receive.1 with
    | .ok (some update) => (m.happen (.taken w.held update)).goto (.handling update)
    | .ok none => m.goto (.resting (w.clock + w.settings.pollInterval.ticks))
    | .error failure => m.escalate failure

/-- An update that needs no answer. -/
def ignore (w : World) (u : Update) : Move :=
  ((Move.stay w).log .debug "Ignoring broker update"
    [("kind", (UpdateKind.ofNumber u.kind).word),
      ("data", Text.maybe (u.payload.map fun p => Text.quoted p.name))]).handled

/-- Handles an update. A token counts whatever the kind of the update is, a call only in a
request. -/
def handle (w : World) (u : Update) : Move :=
  let m := Move.stay w
  match u.payload with
  | some (.token token) =>
    (((m.log .debug "Received token refresh" []).change fun v =>
      v.onSession w.held fun s => s.refresh token.value).happen
        (.refreshed w.held token.value)).reply (.tokenTaken token)
  | some (.reconnect notice) =>
    (m.log .info "Broker announced disconnect"
      [("seconds_until_disconnect", toString notice.seconds.toInt)]).escalate
      (.reconnectRequested notice.seconds)
  | some (.call call) =>
    if UpdateKind.ofNumber u.kind = .request then
      (m.log .debug "Received function call" [("function_id", call.id)]).launch call
    else w.ignore u
  | some (.registration _) | none => w.ignore u

/-- Answers a call of a known function by what the executor said. -/
def started (w : World) (call : Call) (outcome : Except StartFailure Unit) : Move :=
  (Move.stay w).answerCall call (outcome.mapError (.notStarted call.id))

/-- The next move of an agent that does not have to wait. -/
def proceed (w : World) : Option Move :=
  match w.control with
  | .offering purpose i [] => some (w.offered purpose i)
  | .offering purpose i (f :: todo) => some (w.announce f .online (.offer purpose i todo))
  | .writing task message deadline => w.write task message deadline
  | .retrying limit failures wake =>
    if wake ≤ w.clock then some ((Move.stay w).askSession (.connect limit failures)) else none
  | .looping => some w.turn
  | .handling update => some (w.handle update)
  | .starting call deadline =>
    if deadline ≤ w.clock then
      some (w.started call (.error (.timedOut w.settings.dispatchTimeout)))
    else none
  | .resting wake =>
    if w.isShutdown ∨ wake ≤ w.clock then some ((Move.stay w).goto .looping) else none
  | .recovering cause => some (w.recover cause)
  | .backingOff attempt wake =>
    if w.isShutdown then some ((Move.stay w).goto .looping)
    else if wake ≤ w.clock then some ((Move.stay w).askSession (.recover attempt))
    else none
  | .draining [] result => some (w.rest result)
  | .draining (f :: todo) result => some (w.announce f .offline (.withdraw f.id todo result))
  | .opening _ | .ready | .finished _ | .unstarted _ | .dropped | .overflowed => none

end World

end FunctionAgent.Agent
