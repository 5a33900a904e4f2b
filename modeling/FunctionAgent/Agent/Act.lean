import FunctionAgent.Agent.Step
/-!
# What is done to the agent

While an agent works, the broker delivers updates and reads messages, the executor answers, a
shutdown is asked for, and time passes. Each of these is an act on the agent's state, possible only
where it makes sense: an open is answered while one is in flight, and time passes only while the
agent waits, and never beyond the end of its wait. A run is any sequence of moves of the agent and
acts of the others.

One thing is left open by the agent itself. A pause before an attempt ends with its time or with a
shutdown, and where both have come either may be noticed first. The move of the agent
(`World.proceed`) is to notice the shutdown; that it notices the end of the pause is an act as well
(`Act.endPause`), so that there are runs of both kinds.
-/

set_option autoImplicit false

namespace FunctionAgent.Agent

/-- What others do to an agent, and what they decide for it. -/
inductive Act where
  /-- The broker does something at its end of a session. -/
  | peer (session : Nat) (act : Session.PeerAct)
  | requestShutdown
  /-- The session that was asked for is there, or is refused. -/
  | answerOpen (answer : Except SessionFailure Session)
  /-- The executor answers. -/
  | answerStart (answer : Except StartFailure Unit)
  /-- Somebody drives the agent. -/
  | run
  /-- Somebody gives up an agent that is not driven. -/
  | drop
  /-- The agent notices that a pause before an attempt is over, and not the shutdown that was asked
  for as well. -/
  | endPause
  | elapse (ms : Nat)

namespace World

/-- Whether the agent cannot move by itself. -/
def isWaiting (w : World) : Bool := w.proceed.isNone

/-- Whether a pause before an attempt is over. -/
def isPauseOver (w : World) : Bool :=
  match w.control with
  | .backingOff _ wake => decide (wake ≤ w.clock)
  | _ => false

/-- Whether some time may pass without the agent's missing the end of its wait. -/
def mayElapse (w : World) (ms : Nat) : Bool :=
  w.isWaiting && (w.wake?.all fun wake => decide (w.clock + ms ≤ wake))

/-- A shutdown is asked for; asking again changes nothing. -/
def requestShutdown (w : World) : Move :=
  if w.isShutdown then (Move.stay w).log .debug "Shutdown already requested" []
  else
    ((Move.stay w).log .info "Shutdown requested" []).change fun w => { w with isShutdown := true }

/-- The answer to a session that was asked for. -/
def answerOpen (w : World) (purpose : Purpose) : Except SessionFailure Session → Move
  | .ok session =>
    ((Move.stay w).change fun w => { w with sessions := w.sessions ++ [session] }).goto
      (.offering purpose w.sessions.length w.roster)
  | .error failure => (Move.stay w).unopened purpose failure

/-- The state after an act, if the act is possible. -/
def act (w : World) : Act → Option Move
  | .peer i act => some (.stay (w.onSession i fun s => s.peerAct act))
  | .requestShutdown => some w.requestShutdown
  | .answerOpen answer =>
    match w.control with
    | .opening purpose => some (w.answerOpen purpose answer)
    | _ => none
  | .answerStart answer =>
    match w.control with
    | .starting call _ => some (w.started call answer)
    | _ => none
  | .run =>
    match w.control with
    | .ready => some ((Move.stay w).goto .looping)
    | _ => none
  | .drop =>
    match w.control with
    | .ready => some (((Move.stay w).close w.held).goto .dropped)
    | _ => none
  | .endPause =>
    match w.control with
    | .backingOff attempt wake =>
      if w.isShutdown ∧ wake ≤ w.clock then some ((Move.stay w).askSession (.recover attempt))
      else none
    | _ => none
  | .elapse ms => if w.mayElapse ms then some (.stay { w with clock := w.clock + ms }) else none

/-- One step of a run: a move of the agent, or an act of the others. -/
def step (w : World) : Option Act → Option Move
  | none => w.proceed
  | some act => w.act act

end World

/-- A run leads from one state to another; its steps and what happened are listed in order. -/
inductive Run : World → List (Option Act) → List Happening → World → Prop where
  | nil (w : World) : Run w [] [] w
  | snoc {w v : World} {steps : List (Option Act)} {happened : List Happening} {m : Move}
      (run : Run w steps happened v) (act : Option Act) (move : v.step act = some m) :
      Run w (steps ++ [act]) (happened ++ m.happened) m.world

end FunctionAgent.Agent
