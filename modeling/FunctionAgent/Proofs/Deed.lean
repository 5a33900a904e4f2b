import FunctionAgent.Agent.Act
/-!
# What a step of an agent can do

`Deed w act m` lists every way in which a step leads from the state `w` to the move `m`: the point
of the work at which it is taken, what it depends on there, the state after it and all that happens
on the way. A deed is read off a step once, in `World.deed_of_step`; what a step keeps is shown by
cases on deeds and never by unfolding the agent again.
-/

set_option autoImplicit false

namespace FunctionAgent

/-- What comes of a write that is tried at once; `none` where it has to wait. -/
inductive Outbound.Attempt {α : Type} (o : Outbound α) (a : α) :
    Option (Outbound.Written α) → Prop where
  | latched {fault : WriteFault} (latched : o.latched = some fault) :
      Attempt o a (some (.error fault, o))
  | stopped (sound : o.latched = none) (closed : o.isStopped = true) :
      Attempt o a (some (.error .stopped, o.latch .stopped))
  | closedByPeer (sound : o.latched = none) (opened : o.isStopped = false)
      (left : o.peer ≠ .reading) : Attempt o a (some (.error .closedByPeer, o.latch .closedByPeer))
  | taken (sound : o.latched = none) (opened : o.isStopped = false) (reading : o.peer = .reading)
      (room : o.queue.length < o.capacity) :
      Attempt o a (some (.ok (), { o with queue := o.queue ++ [a] }))
  | full (sound : o.latched = none) (opened : o.isStopped = false) (reading : o.peer = .reading)
      (full : o.capacity ≤ o.queue.length) : Attempt o a none

/-- How a write comes to its end: at once, or given up for want of space. -/
inductive Outbound.Ends {α : Type} (o : Outbound α) (a : α) (clock : Nat) :
    Option Nat → Outbound.Written α → Prop where
  | atOnce {deadline : Option Nat} {outcome : Outbound.Written α}
      (settled : o.write? a = some outcome) : Ends o a clock deadline outcome
  | givenUp {deadline : Nat} (full : o.write? a = none) (due : deadline ≤ clock) :
      Ends o a clock (some deadline) o.giveUp

section Ends

variable {α : Type} {o after : Outbound α} {a : α} {clock : Nat} {deadline : Option Nat}

theorem Outbound.attempt (o : Outbound α) (a : α) : o.Attempt a (o.write? a) := by
  unfold Outbound.write?
  split
  · rename_i latched
    exact .latched latched
  · rename_i sound
    split
    · rename_i closed
      exact .stopped sound closed
    · rename_i opened
      have opened : o.isStopped = false := by simpa using opened
      split
      · rename_i left
        exact .closedByPeer sound opened left
      · rename_i reading
        have reading : o.peer = .reading := by simpa using reading
        split
        · rename_i room
          exact .taken sound opened reading room
        · rename_i full
          exact .full sound opened reading (Nat.le_of_not_lt full)

/-- A message is taken by an open writing half that has not failed, at the end of its queue. -/
theorem Outbound.Ends.taken (ends : o.Ends a clock deadline (.ok (), after)) :
    o.latched = none ∧ o.isStopped = false ∧ after = { o with queue := o.queue ++ [a] } := by
  cases ends with
  | atOnce settled =>
    have attempt := o.attempt a
    rw [settled] at attempt
    cases attempt with
    | taken sound opened => exact ⟨sound, opened, rfl⟩

/-- A write that fails latches its fault and changes nothing else. -/
theorem Outbound.Ends.refused {fault : WriteFault}
    (ends : o.Ends a clock deadline (.error fault, after)) :
    (o.latched = none ∨ o.latched = some fault) ∧ after = o.latch fault := by
  have attempt := o.attempt a
  cases ends with
  | givenUp full =>
    rw [full] at attempt
    cases attempt with
    | full sound => exact ⟨.inl sound, rfl⟩
  | atOnce settled =>
    rw [settled] at attempt
    cases attempt with
    | latched latched => exact ⟨.inr latched, by simp [Outbound.latch, ← latched]⟩
    | stopped sound | closedByPeer sound => exact ⟨.inl sound, rfl⟩

theorem Outbound.Ends.isStopped_eq {result : Except WriteFault Unit}
    (ends : o.Ends a clock deadline (result, after)) : after.isStopped = o.isStopped := by
  cases result with
  | ok => exact ends.taken.2.2 ▸ rfl
  | error fault => exact ends.refused.2 ▸ rfl

end Ends

namespace Agent

/-- An event that the agent reports. -/
abbrev Happening.report (level : Level) (message : String) (fields : List (String × String)) :
    Happening := .logged ⟨.agent, level, message, fields⟩

/-- Whether a session is asked for before the agent is at work. -/
def Purpose.isFirst : Purpose → Bool
  | .start | .connect _ _ => true
  | .recover _ => false

/-- Where the agent goes on when no session came about, and what it reports. -/
inductive Setback (settings : Settings) (clock : Nat) :
    Purpose → SessionFailure → Control → List Happening → Prop where
  | start (failure : SessionFailure) : Setback settings clock .start failure (.unstarted failure) []
  | uncountable {limit failed : Nat} (failure : SessionFailure)
      (large : Text.word32Max < failed + 1) :
      Setback settings clock (.connect limit failed) failure .overflowed []
  | unstarted {limit failed : Nat} (failure : SessionFailure) (small : failed + 1 ≤ Text.word32Max)
      (exhausted : limit ≤ failed + 1) :
      Setback settings clock (.connect limit failed) failure (.unstarted failure)
        [.report .error "Could not connect to broker"
          [("attempts", toString (failed + 1)), ("error", failure.message)]]
  | unmeasurable {limit failed : Nat} (failure : SessionFailure)
      (small : failed + 1 ≤ Text.word32Max) (left : failed + 1 < limit)
      (long : settings.backoff.times? (failed + 1) = none) :
      Setback settings clock (.connect limit failed) failure .overflowed []
  | retrying {limit failed : Nat} {pause : Span} (failure : SessionFailure)
      (small : failed + 1 ≤ Text.word32Max) (left : failed + 1 < limit)
      (length : settings.backoff.times? (failed + 1) = some pause) :
      Setback settings clock (.connect limit failed) failure
        (.retrying limit (failed + 1) (clock + pause.ticks))
        [.report .warn "Could not connect to broker, retrying"
          [("attempt", toString (failed + 1)), ("remaining", toString (limit - (failed + 1))),
            ("retry_in", pause.render), ("error", failure.message)]]
  | recovering {attempt : Nat} (failure : SessionFailure) :
      Setback settings clock (.recover attempt) failure (.recovering failure)
        [.report .warn "Reconnect attempt failed"
          [("attempt", toString attempt), ("error", failure.message)]]

/-- Every way in which a step leads from a state to a move. -/
inductive Deed (w : World) : Option Act → Move → Prop where
  -- The functions are offered on a fresh session.
  | installFirst {purpose : Purpose} {i : Nat} (here : w.control = .offering purpose i [])
      (first : purpose.isFirst = true) :
      Deed w none
        ⟨{ w with held := i, control := .ready },
          [.report .debug "Registered functions" [("count", toString w.roster.length)],
            .report .info "Launcher running" [("functions", toString w.roster.length)]]⟩
  | installNext {attempt i : Nat} (here : w.control = .offering (.recover attempt) i []) :
      Deed w none
        ⟨{ w with held := i, phase := .running, control := .looping },
          [.report .debug "Registered functions" [("count", toString w.roster.length)]]
            ++ Move.publication w.phase .running
            ++ [.report .info "Reconnected to broker" [("attempt", toString attempt)]]⟩
  | offer {purpose : Purpose} {i : Nat} {f : Function} {todo : List Function}
      (here : w.control = .offering purpose i (f :: todo)) :
      Deed w none
        ⟨{ w with
            roster := w.roster.mark f.id .online
            control := .writing (.offer purpose i todo) (.announce f .online) none }, []⟩
  -- A message is written.
  | awaitSpace {task : Task} {message : Message}
      (here : w.control = .writing task message none)
      (full : (w.session (w.target task)).stream.outbound.write? message.toUpdate = none) :
      Deed w none
        ⟨{ w with
            control := .writing task message
              (some (w.clock + (w.session (w.target task)).stream.outbound.limit.ticks)) }, []⟩
  | offerWritten {purpose : Purpose} {i : Nat} {todo : List Function} {message : Message}
      {deadline : Option Nat} {o : Outbound Update}
      (here : w.control = .writing (.offer purpose i todo) message deadline)
      (ends : (w.session i).stream.outbound.Ends message.toUpdate w.clock deadline (.ok (), o)) :
      Deed w none
        ⟨{ w.onSession i (·.withOutbound o) with control := .offering purpose i todo },
          [.written i message (.ok ())]⟩
  | offerFailed {purpose : Purpose} {i : Nat} {todo : List Function} {message : Message}
      {deadline : Option Nat} {fault : WriteFault} {o : Outbound Update} {control : Control}
      {reports : List Happening}
      (here : w.control = .writing (.offer purpose i todo) message deadline)
      (ends : (w.session i).stream.outbound.Ends message.toUpdate w.clock deadline
        (.error fault, o))
      (setback : Setback w.settings w.clock purpose (Session.writeFailure fault) control reports) :
      Deed w none
        ⟨{ (w.onSession i (·.withOutbound o)).onSession i Session.stop with control },
          [.written i message (.error fault), .closed i] ++ reports⟩
  | answerWritten {message : Message} {deadline : Option Nat} {o : Outbound Update}
      (here : w.control = .writing .answer message deadline)
      (ends : w.current.stream.outbound.Ends message.toUpdate w.clock deadline (.ok (), o)) :
      Deed w none
        ⟨{ w.onSession w.held (·.withOutbound o) with failures := 0, control := .looping },
          [.written w.held message (.ok ())]⟩
  | answerFailed {message : Message} {deadline : Option Nat} {fault : WriteFault}
      {o : Outbound Update} (here : w.control = .writing .answer message deadline)
      (ends : w.current.stream.outbound.Ends message.toUpdate w.clock deadline (.error fault, o)) :
      Deed w none
        ⟨{ w.onSession w.held (·.withOutbound o) with
            control := .recovering (Session.writeFailure fault) },
          [.written w.held message (.error fault)]⟩
  | withdrawalWritten {id : Uuid} {todo : List Function} {result : Result} {message : Message}
      {deadline : Option Nat} {o : Outbound Update}
      (here : w.control = .writing (.withdraw id todo result) message deadline)
      (ends : w.current.stream.outbound.Ends message.toUpdate w.clock deadline (.ok (), o)) :
      Deed w none
        ⟨{ w.onSession w.held (·.withOutbound o) with control := .draining todo result },
          [.written w.held message (.ok ())]⟩
  | withdrawalFailed {id : Uuid} {todo : List Function} {result : Result} {message : Message}
      {deadline : Option Nat} {fault : WriteFault} {o : Outbound Update}
      (here : w.control = .writing (.withdraw id todo result) message deadline)
      (ends : w.current.stream.outbound.Ends message.toUpdate w.clock deadline (.error fault, o)) :
      Deed w none
        ⟨{ w.onSession w.held (·.withOutbound o) with control := .draining todo result },
          [.written w.held message (.error fault),
            .report .warn "Could not deregister function"
              [("function_id", id.render), ("error", (Session.writeFailure fault).message)]]⟩
  -- One turn of the loop.
  | drain (here : w.control = .looping) (asked : w.isShutdown = true) :
      Deed w none
        ⟨{ w with phase := .shuttingDown, control := .draining w.roster (.ok ()) },
          Move.publication w.phase .shuttingDown⟩
  | take {u : Update} (here : w.control = .looping) (unasked : w.isShutdown = false)
      (received : w.current.receive.1 = .ok (some u)) :
      Deed w none
        ⟨{ w.onSession w.held (·.receive.2) with control := .handling u }, [.taken w.held u]⟩
  | rest (here : w.control = .looping) (unasked : w.isShutdown = false)
      (nothing : w.current.receive.1 = .ok none) :
      Deed w none
        ⟨{ w.onSession w.held (·.receive.2) with
            control := .resting (w.clock + w.settings.pollInterval.ticks) }, []⟩
  | lose {text : String} (here : w.control = .looping) (unasked : w.isShutdown = false)
      (lost : w.current.receive.1 = .error (.streamEnded text)) :
      Deed w none
        ⟨{ w.onSession w.held (·.receive.2) with control := .recovering (.streamEnded text) }, []⟩
  | wake {wake : Nat} (here : w.control = .resting wake) (due : w.isShutdown ∨ wake ≤ w.clock) :
      Deed w none ⟨{ w with control := .looping }, []⟩
  -- An update is handled.
  | refresh {u : Update} {token : Token} (here : w.control = .handling u)
      (carried : u.payload = some (.token token)) :
      Deed w none
        ⟨{ w.onSession w.held (·.refresh token.value) with
            control := .writing .answer (.tokenTaken token) none },
          [.report .debug "Received token refresh" [], .refreshed w.held token.value]⟩
  | heed {u : Update} {notice : Reconnect} (here : w.control = .handling u)
      (carried : u.payload = some (.reconnect notice)) :
      Deed w none
        ⟨{ w with control := .recovering (.reconnectRequested notice.seconds) },
          [.report .info "Broker announced disconnect"
            [("seconds_until_disconnect", toString notice.seconds.toInt)]]⟩
  | refuse {u : Update} {call : Call} (here : w.control = .handling u)
      (carried : u.payload = some (.call call)) (request : UpdateKind.ofNumber u.kind = .request)
      (unknown : w.roster.resolve? call.id = none) :
      Deed w none
        ⟨{ w with
            control := .writing .answer
              (.refused call (CallFailure.unknownFunction call.id).message) none },
          [.report .debug "Received function call" [("function_id", call.id)],
            .report .error "Function call failed"
              [("function_id", call.id),
                ("error", (CallFailure.unknownFunction call.id).message)]]⟩
  | launch {u : Update} {call : Call} {f : Function} (here : w.control = .handling u)
      (carried : u.payload = some (.call call)) (request : UpdateKind.ofNumber u.kind = .request)
      (known : w.roster.resolve? call.id = some f) :
      Deed w none
        ⟨{ w with control := .starting call (w.clock + w.settings.dispatchTimeout.ticks) },
          [.report .debug "Received function call" [("function_id", call.id)],
            .starting f call.sessionInfo]⟩
  | ignore {u : Update} (here : w.control = .handling u)
      (noToken : ∀ token, u.payload ≠ some (.token token))
      (noNotice : ∀ notice, u.payload ≠ some (.reconnect notice))
      (noRequest : ∀ call, u.payload = some (.call call) →
        UpdateKind.ofNumber u.kind ≠ .request) :
      Deed w none
        ⟨{ w with failures := 0, control := .looping },
          [.report .debug "Ignoring broker update"
            [("kind", (UpdateKind.ofNumber u.kind).word),
              ("data", Text.maybe (u.payload.map fun p => Text.quoted p.name))]]⟩
  | timeOut {call : Call} {deadline : Nat} (here : w.control = .starting call deadline)
      (due : deadline ≤ w.clock) :
      Deed w none
        ⟨{ w with
            control := .writing .answer
              (.refused call
                (CallFailure.notStarted call.id (.timedOut w.settings.dispatchTimeout)).message)
              none },
          [.report .error "Function call failed"
            [("function_id", call.id),
              ("error",
                (CallFailure.notStarted call.id (.timedOut w.settings.dispatchTimeout)).message)]]⟩
  -- A session is asked for again.
  | retry {limit failed wake : Nat} (here : w.control = .retrying limit failed wake)
      (due : wake ≤ w.clock) :
      Deed w none ⟨{ w with control := .opening (.connect limit failed) }, [.opening]⟩
  | miscount {cause : SessionFailure} (here : w.control = .recovering cause)
      (large : Text.word32Max < w.failures + 1) :
      Deed w none ⟨{ w with failures := w.failures + 1, control := .overflowed }, []⟩
  | giveUp {cause : SessionFailure} (here : w.control = .recovering cause)
      (small : w.failures + 1 ≤ Text.word32Max)
      (exhausted : w.settings.maxAttempts.toNat < w.failures + 1) :
      Deed w none
        ⟨{ w with
            failures := w.failures + 1, phase := .shuttingDown
            control := .draining w.roster (.error cause) },
          .report .error "Could not reconnect to broker, giving up"
              [("attempts", toString w.settings.maxAttempts.toNat), ("error", cause.message)]
            :: Move.publication w.phase .shuttingDown⟩
  | desist {cause : SessionFailure} (here : w.control = .recovering cause)
      (small : w.failures + 1 ≤ Text.word32Max)
      (left : w.failures + 1 ≤ w.settings.maxAttempts.toNat) (asked : w.isShutdown = true) :
      Deed w none ⟨{ w with failures := w.failures + 1, control := .looping }, []⟩
  | reopen {cause : SessionFailure} (here : w.control = .recovering cause)
      (left : w.failures + 1 ≤ w.settings.maxAttempts.toNat) (unasked : w.isShutdown = false)
      (first : w.failures = 0) :
      Deed w none
        ⟨{ w.onSession w.held Session.stop with
            failures := w.failures + 1, phase := .recovering (w.failures + 1)
            control := .opening (.recover (w.failures + 1)) },
          Move.publication w.phase (.recovering (w.failures + 1))
            ++ [.report .warn "Lost broker stream, reconnecting"
                [("attempt", toString (w.failures + 1)),
                  ("remaining", toString (w.settings.maxAttempts.toNat - (w.failures + 1))),
                  ("error", cause.message)],
              .closed w.held, .opening]⟩
  | mismeasure {cause : SessionFailure} (here : w.control = .recovering cause)
      (small : w.failures + 1 ≤ Text.word32Max)
      (left : w.failures + 1 ≤ w.settings.maxAttempts.toNat) (unasked : w.isShutdown = false)
      (later : 0 < w.failures) (long : w.settings.backoff.times? (w.failures + 1) = none) :
      Deed w none
        ⟨{ w.onSession w.held Session.stop with
            failures := w.failures + 1, phase := .recovering (w.failures + 1)
            control := .overflowed },
          Move.publication w.phase (.recovering (w.failures + 1))
            ++ [.report .warn "Lost broker stream, reconnecting"
                [("attempt", toString (w.failures + 1)),
                  ("remaining", toString (w.settings.maxAttempts.toNat - (w.failures + 1))),
                  ("error", cause.message)],
              .closed w.held]⟩
  | backOff {cause : SessionFailure} {pause : Span} (here : w.control = .recovering cause)
      (small : w.failures + 1 ≤ Text.word32Max)
      (left : w.failures + 1 ≤ w.settings.maxAttempts.toNat) (unasked : w.isShutdown = false)
      (later : 0 < w.failures) (length : w.settings.backoff.times? (w.failures + 1) = some pause) :
      Deed w none
        ⟨{ w.onSession w.held Session.stop with
            failures := w.failures + 1, phase := .recovering (w.failures + 1)
            control := .backingOff (w.failures + 1) (w.clock + pause.ticks) },
          Move.publication w.phase (.recovering (w.failures + 1))
            ++ [.report .warn "Lost broker stream, reconnecting"
                [("attempt", toString (w.failures + 1)),
                  ("remaining", toString (w.settings.maxAttempts.toNat - (w.failures + 1))),
                  ("error", cause.message)],
              .closed w.held]⟩
  | quitBackOff {attempt wake : Nat} (here : w.control = .backingOff attempt wake)
      (asked : w.isShutdown = true) : Deed w none ⟨{ w with control := .looping }, []⟩
  | reopenLater {attempt wake : Nat} (here : w.control = .backingOff attempt wake)
      (unasked : w.isShutdown = false) (due : wake ≤ w.clock) :
      Deed w none ⟨{ w with control := .opening (.recover attempt) }, [.opening]⟩
  -- The functions are withdrawn.
  | withdraw {f : Function} {todo : List Function} {result : Result}
      (here : w.control = .draining (f :: todo) result) :
      Deed w none
        ⟨{ w with
            roster := w.roster.mark f.id .offline
            control := .writing (.withdraw f.id todo result) (.announce f .offline) none }, []⟩
  | stop {result : Result} (here : w.control = .draining [] result) :
      Deed w none
        ⟨{ w.onSession w.held Session.stop with phase := .stopped, control := .finished result },
          .closed w.held :: Move.publication w.phase .stopped
            ++ [.report .info "Launcher stopped" []]⟩
  -- Others act.
  | peer (i : Nat) (act : Session.PeerAct) :
      Deed w (some (.peer i act)) ⟨w.onSession i (·.peerAct act), []⟩
  | shutDown (unasked : w.isShutdown = false) :
      Deed w (some .requestShutdown)
        ⟨{ w with isShutdown := true }, [.report .info "Shutdown requested" []]⟩
  | shutDownAgain (asked : w.isShutdown = true) :
      Deed w (some .requestShutdown) ⟨w, [.report .debug "Shutdown already requested" []]⟩
  | opened {purpose : Purpose} (session : Session) (here : w.control = .opening purpose) :
      Deed w (some (.answerOpen (.ok session)))
        ⟨{ w with
            sessions := w.sessions ++ [session]
            control := .offering purpose w.sessions.length w.roster }, []⟩
  | unopened {purpose : Purpose} {failure : SessionFailure} {control : Control}
      {reports : List Happening} (here : w.control = .opening purpose)
      (setback : Setback w.settings w.clock purpose failure control reports) :
      Deed w (some (.answerOpen (.error failure))) ⟨{ w with control }, reports⟩
  | started {call : Call} {deadline : Nat} (here : w.control = .starting call deadline) :
      Deed w (some (.answerStart (.ok ())))
        ⟨{ w with control := .writing .answer (.started call) none },
          [.report .info "Function started" [("function_id", call.id)]]⟩
  | unstarted {call : Call} {deadline : Nat} (cause : StartFailure)
      (here : w.control = .starting call deadline) :
      Deed w (some (.answerStart (.error cause)))
        ⟨{ w with
            control := .writing .answer
              (.refused call (CallFailure.notStarted call.id cause).message) none },
          [.report .error "Function call failed"
            [("function_id", call.id),
              ("error", (CallFailure.notStarted call.id cause).message)]]⟩
  | run (here : w.control = .ready) : Deed w (some .run) ⟨{ w with control := .looping }, []⟩
  | drop (here : w.control = .ready) :
      Deed w (some .drop)
        ⟨{ w.onSession w.held Session.stop with control := .dropped }, [.closed w.held]⟩
  | reopenAnyway {attempt wake : Nat} (here : w.control = .backingOff attempt wake)
      (asked : w.isShutdown = true) (due : wake ≤ w.clock) :
      Deed w (some .endPause) ⟨{ w with control := .opening (.recover attempt) }, [.opening]⟩
  | elapse (ms : Nat) (may : w.mayElapse ms = true) :
      Deed w (some (.elapse ms)) ⟨{ w with clock := w.clock + ms }, []⟩

section Reading

variable {w : World} {m : Move}

theorem Move.publish_eq (m : Move) (phase : Phase) :
    m.publish phase =
      ⟨{ m.world with phase }, m.happened ++ publication m.world.phase phase⟩ := by
  rw [← m.world_publish phase, ← m.happened_publish phase]

theorem Move.unopened_eq (m : Move) (purpose : Purpose) (failure : SessionFailure) :
    ∃ control reports,
      Setback m.world.settings m.world.clock purpose failure control reports ∧
      m.unopened purpose failure = ⟨{ m.world with control }, m.happened ++ reports⟩ := by
  cases purpose with
  | start => exact ⟨_, _, .start failure, by simp [unopened, goto, change]⟩
  | recover attempt => exact ⟨_, _, .recovering failure, rfl⟩
  | connect limit failed =>
    simp only [unopened]
    split
    · rename_i large
      exact ⟨_, _, .uncountable failure large, by simp [goto, change]⟩
    · rename_i small
      split
      · rename_i exhausted
        exact ⟨_, _, .unstarted failure (by omega) exhausted, rfl⟩
      · rename_i left
        cases length : m.world.settings.backoff.times? (failed + 1) with
        | none =>
          exact ⟨_, _, .unmeasurable failure (by omega) (by omega) length,
            by simp [goto, change]⟩
        | some pause => exact ⟨_, _, .retrying failure (by omega) (by omega) length, rfl⟩

/-- What follows a write that has come to its end. -/
theorem deed_of_settle {task : Task} {message : Message} {deadline : Option Nat}
    {outcome : Outbound.Written Update} (here : w.control = .writing task message deadline)
    (ends : (w.session (w.target task)).stream.outbound.Ends message.toUpdate w.clock deadline
      outcome) : Deed w none (w.settle task message outcome) := by
  obtain ⟨result, o⟩ := outcome
  cases task with
  | answer =>
    cases result with
    | ok => exact .answerWritten here ends
    | error fault => exact .answerFailed here ends
  | withdraw id todo final =>
    cases result with
    | ok => exact .withdrawalWritten here ends
    | error fault => exact .withdrawalFailed here ends
  | offer purpose i todo =>
    cases result with
    | ok => exact .offerWritten here ends
    | error fault =>
      obtain ⟨control, reports, setback, equal⟩ := Move.unopened_eq
        (((((Move.stay w).change fun v => v.onSession i fun s => s.withOutbound o).happen
          (.written i message (.error fault))).close i)) purpose (Session.writeFailure fault)
      have same : w.settle (.offer purpose i todo) message (.error fault, o) = _ := equal
      rw [same]
      exact .offerFailed here ends setback

theorem deed_of_write {task : Task} {message : Message} {deadline : Option Nat}
    (here : w.control = .writing task message deadline)
    (move : w.write task message deadline = some m) : Deed w none m := by
  unfold World.write at move
  cases settled : (w.session (w.target task)).stream.outbound.write? message.toUpdate with
  | some outcome =>
    simp only [settled, Option.some.injEq] at move
    exact move ▸ deed_of_settle here (.atOnce settled)
  | none =>
    cases deadline with
    | none =>
      simp only [settled, Option.some.injEq] at move
      exact move ▸ .awaitSpace here settled
    | some deadline =>
      simp only [settled] at move
      split at move
      · rename_i due
        obtain rfl := Option.some.inj move
        exact deed_of_settle here (.givenUp settled due)
      · contradiction

/-- A look for an update fails only when the stream is over. -/
theorem lost_of_receive {s : Session} {failure : SessionFailure}
    (received : s.receive.1 = .error failure) : ∃ text, failure = .streamEnded text := by
  obtain ⟨bearer, ⟨⟨queue, ended⟩, outbound, isFed⟩⟩ := s
  cases queue with
  | cons => cases received
  | nil =>
    cases ended with
    | none => cases received
    | some how => exact ⟨how.message, (Except.error.inj received).symm⟩

theorem deed_of_turn (here : w.control = .looping) : Deed w none w.turn := by
  unfold World.turn
  split
  · rename_i asked
    rw [Move.drain, Move.publish_eq]
    exact .drain here asked
  · rename_i unasked
    have unasked : w.isShutdown = false := by simpa using unasked
    cases received : w.current.receive.1 with
    | ok update? =>
      cases update? with
      | none => exact .rest here unasked received
      | some u => exact .take here unasked received
    | error failure =>
      obtain ⟨text, rfl⟩ := lost_of_receive received
      exact .lose here unasked received

theorem deed_of_handle {u : Update} (here : w.control = .handling u) :
    Deed w none (w.handle u) := by
  unfold World.handle
  cases carried : u.payload with
  | none =>
    exact .ignore here (by simp [carried]) (by simp [carried]) (by simp [carried])
  | some payload =>
    cases payload with
    | token token => exact .refresh here carried
    | reconnect notice => exact .heed here carried
    | registration record =>
      exact .ignore here (by simp [carried]) (by simp [carried]) (by simp [carried])
    | call call =>
      simp only
      split
      · rename_i request
        unfold Move.launch
        cases resolved : w.roster.resolve? call.id with
        | none =>
          simp only [Move.world_log, Move.world_stay, resolved]
          exact .refuse here carried request resolved
        | some f =>
          simp only [Move.world_log, Move.world_stay, resolved]
          exact .launch here carried request resolved
      · rename_i request
        exact .ignore here (by simp [carried]) (by simp [carried])
          (fun _ _ => request)

theorem deed_of_recover {cause : SessionFailure} (here : w.control = .recovering cause) :
    Deed w none (w.recover cause) := by
  unfold World.recover
  simp only
  split
  · rename_i large
    exact .miscount here large
  · rename_i small
    split
    · rename_i exhausted
      rw [Move.drain, Move.publish_eq]
      exact .giveUp here (by omega) exhausted
    · rename_i left
      split
      · rename_i asked
        exact .desist here (by omega) (by omega) asked
      · rename_i unasked
        have unasked : w.isShutdown = false := by simpa using unasked
        rw [Move.publish_eq]
        split
        · rename_i first
          have deed := Deed.reopen here (by omega) unasked (by omega)
          simpa [Move.log, Move.close, Move.askSession, Move.goto, Move.change, Move.happen,
            Move.stay, World.onSession] using deed
        · rename_i later
          cases length : w.settings.backoff.times? (w.failures + 1) with
          | none =>
            have deed := Deed.mismeasure here (by omega) (by omega) unasked (by omega) length
            simpa [Move.log, Move.close, Move.goto, Move.change, Move.happen, Move.stay,
              World.onSession, length] using deed
          | some pause =>
            have deed := Deed.backOff here (by omega) (by omega) unasked (by omega) length
            simpa [Move.log, Move.close, Move.goto, Move.change, Move.happen, Move.stay,
              World.onSession, length] using deed

/-- A move of the agent itself is a deed. -/
theorem deed_of_proceed (move : w.proceed = some m) : Deed w none m := by
  cases here : w.control with
  | offering purpose i todo =>
    cases todo with
    | nil =>
      simp only [World.proceed, here, Option.some.injEq] at move
      subst move
      cases purpose with
      | start | connect => exact .installFirst here rfl
      | recover attempt =>
        simp only [World.offered]
        rw [Move.publish_eq]
        exact .installNext here
    | cons f todo =>
      simp only [World.proceed, here, Option.some.injEq] at move
      exact move ▸ .offer here
  | writing task message deadline =>
    simp only [World.proceed, here] at move
    exact deed_of_write here move
  | retrying limit failed wake =>
    simp only [World.proceed, here, Option.ite_none_right_eq_some, Option.some.injEq] at move
    obtain ⟨due, rfl⟩ := move
    exact .retry here due
  | looping =>
    simp only [World.proceed, here, Option.some.injEq] at move
    exact move ▸ deed_of_turn here
  | handling u =>
    simp only [World.proceed, here, Option.some.injEq] at move
    exact move ▸ deed_of_handle here
  | starting call deadline =>
    simp only [World.proceed, here, Option.ite_none_right_eq_some, Option.some.injEq] at move
    obtain ⟨due, rfl⟩ := move
    exact .timeOut here due
  | resting wake =>
    simp only [World.proceed, here, Option.ite_none_right_eq_some, Option.some.injEq] at move
    obtain ⟨due, rfl⟩ := move
    exact .wake here due
  | recovering cause =>
    simp only [World.proceed, here, Option.some.injEq] at move
    exact move ▸ deed_of_recover here
  | backingOff attempt wake =>
    simp only [World.proceed, here] at move
    split at move
    · rename_i asked
      obtain rfl := Option.some.inj move
      exact .quitBackOff here asked
    · rename_i unasked
      simp only [Option.ite_none_right_eq_some, Option.some.injEq] at move
      obtain ⟨due, rfl⟩ := move
      exact .reopenLater here (by simpa using unasked) due
  | draining todo result =>
    cases todo with
    | nil =>
      simp only [World.proceed, here, Option.some.injEq, World.rest] at move
      subst move
      rw [Move.publish_eq]
      exact .stop here
    | cons f todo =>
      simp only [World.proceed, here, Option.some.injEq] at move
      exact move ▸ .withdraw here
  | opening | ready | finished | unstarted | dropped | overflowed =>
    simp [World.proceed, here] at move

/-- Every step is a deed. -/
theorem deed_of_step {act : Option Act} (move : w.step act = some m) : Deed w act m := by
  cases act with
  | none => exact deed_of_proceed move
  | some act =>
    simp only [World.step, World.act] at move
    cases act with
    | peer i act => exact Option.some.inj move ▸ .peer i act
    | requestShutdown =>
      obtain rfl := Option.some.inj move
      unfold World.requestShutdown
      split
      · rename_i asked
        exact .shutDownAgain asked
      · rename_i unasked
        exact .shutDown (by simpa using unasked)
    | answerOpen answer =>
      simp only at move
      split at move
      · rename_i purpose here
        obtain rfl := Option.some.inj move
        cases answer with
        | ok session => exact .opened session here
        | error failure =>
          obtain ⟨control, reports, setback, equal⟩ :=
            Move.unopened_eq (.stay w) purpose failure
          rw [World.answerOpen, equal]
          exact .unopened here setback
      · contradiction
    | answerStart answer =>
      simp only at move
      split at move
      · rename_i call deadline here
        obtain rfl := Option.some.inj move
        cases answer with
        | ok => exact .started here
        | error cause => exact .unstarted cause here
      · contradiction
    | run =>
      simp only at move
      split at move
      · rename_i here
        exact Option.some.inj move ▸ .run here
      · contradiction
    | drop =>
      simp only at move
      split at move
      · rename_i here
        exact Option.some.inj move ▸ .drop here
      · contradiction
    | endPause =>
      simp only at move
      split at move
      · rename_i here
        simp only [Option.ite_none_right_eq_some, Option.some.injEq] at move
        obtain ⟨⟨asked, due⟩, rfl⟩ := move
        exact .reopenAnyway here asked due
      · contradiction
    | elapse ms =>
      simp only [Option.ite_none_right_eq_some, Option.some.injEq] at move
      obtain ⟨may, rfl⟩ := move
      exact .elapse ms may

end Reading

end Agent

end FunctionAgent
