import FunctionAgent.Agent.Settings
import FunctionAgent.Broker.Session
import FunctionAgent.Log
/-!
# The agent and what surrounds it

The agent offers its roster to the broker on one session at a time. This module holds the state of
an agent: the sessions that it was given, the one it holds, how many recoveries it has counted since
the last update that it handled, the phase that it publishes, and the point of its work at which it
stands. Work is cut where the agent may have to wait, so between two such points nothing else can
happen. A move is a state together with what happened on the way to it.
-/

set_option autoImplicit false

namespace FunctionAgent.Agent

/-- The phase that an agent publishes. -/
inductive Phase where
  | running
  /-- The stream was lost; the recovery with this number is on its way. -/
  | recovering (attempt : Nat)
  | shuttingDown
  | stopped
  deriving DecidableEq, Repr

/-- A phase as it is shown. -/
def Phase.render : Phase → String
  | .running => "RUNNING"
  | .recovering attempt => "RECOVERING(" ++ toString attempt ++ ")"
  | .shuttingDown => "SHUTTING_DOWN"
  | .stopped => "STOPPED"

/-- What a session is opened for. -/
inductive Purpose where
  /-- To start the agent, in a single attempt. -/
  | start
  /-- To start the agent in at most `limit` attempts, of which `failures` have failed. -/
  | connect (limit failures : Nat)
  /-- To recover a lost stream. -/
  | recover (attempt : Nat)
  deriving DecidableEq, Repr

/-- How the work of an agent ended: well, or with the failure that it could not recover from. -/
abbrev Result := Except SessionFailure Unit

/-- What a message is written for. -/
inductive Task where
  /-- To offer a function on a fresh session; `todo` are offered next. -/
  | offer (purpose : Purpose) (session : Nat) (todo : List Function)
  /-- To answer an update. -/
  | answer
  /-- To withdraw a function; `todo` are withdrawn next. -/
  | withdraw (function : Uuid) (todo : List Function) (result : Result)

/-- The point of its work at which an agent stands. Times are milliseconds of the clock. -/
inductive Control where
  /-- A session was asked for and no answer has come. -/
  | opening (purpose : Purpose)
  /-- The functions in `todo` are still to be offered on a fresh session. -/
  | offering (purpose : Purpose) (session : Nat) (todo : List Function)
  /-- A message is to be written; if there was no space, until some time. -/
  | writing (task : Task) (message : Message) (deadline : Option Nat)
  /-- The next attempt to start is due at some time. -/
  | retrying (limit failures wake : Nat)
  /-- The agent was started but is not driven yet. -/
  | ready
  /-- The agent is about to look for shutdown and then for an update. -/
  | looping
  /-- An update was taken and is to be handled. -/
  | handling (update : Update)
  /-- The executor was asked to start a function for a call and has some time left. -/
  | starting (call : Call) (deadline : Nat)
  /-- Nothing was to be done; the agent looks again at some time. -/
  | resting (wake : Nat)
  /-- The stream was lost. -/
  | recovering (cause : SessionFailure)
  /-- A recovery is due at some time. -/
  | backingOff (attempt wake : Nat)
  /-- The functions in `todo` are still to be withdrawn. -/
  | draining (todo : List Function) (result : Result)
  | finished (result : Result)
  /-- No session could be opened at the start. -/
  | unstarted (failure : SessionFailure)
  /-- The agent was given up before it was driven. -/
  | dropped
  /-- A count of failures or a pause became too large to be represented. -/
  | overflowed

/-- An agent with its sessions. -/
structure World where
  settings : Settings
  /-- Milliseconds since the beginning. -/
  clock : Nat
  roster : Roster
  /-- Every session that was opened, the oldest first. -/
  sessions : List Session
  /-- The index of the session in use, from the start of the agent on. -/
  held : Nat
  /-- Recoveries since the last update that was handled. -/
  failures : Nat
  phase : Phase
  isShutdown : Bool
  control : Control

/-- What can be noticed of the work of an agent. -/
inductive Happening where
  /-- A session was asked for. -/
  | opening
  /-- An update was taken from a session. -/
  | taken (session : Nat) (update : Update)
  /-- The calls of a session carry another token from now on. -/
  | refreshed (session : Nat) (token : String)
  /-- The executor was asked to start a function. -/
  | starting (function : Function) (sessionInfo : List UInt8)
  /-- A message was written to a session, or could not be. -/
  | written (session : Nat) (message : Message) (result : Except WriteFault Unit)
  /-- A session was closed. -/
  | closed (session : Nat)
  | published (phase : Phase)
  | logged (event : Event)

namespace World

/-- A session by its index. -/
def session (w : World) (i : Nat) : Session := w.sessions.getD i default

/-- Changes a session. -/
def onSession (w : World) (i : Nat) (f : Session → Session) : World :=
  { w with sessions := w.sessions.modify i f }

section

variable (w : World) (i : Nat) (f : Session → Session)

@[simp] theorem sessions_onSession : (w.onSession i f).sessions = w.sessions.modify i f := rfl

@[simp] theorem settings_onSession : (w.onSession i f).settings = w.settings := rfl

@[simp] theorem clock_onSession : (w.onSession i f).clock = w.clock := rfl

@[simp] theorem roster_onSession : (w.onSession i f).roster = w.roster := rfl

@[simp] theorem held_onSession : (w.onSession i f).held = w.held := rfl

@[simp] theorem failures_onSession : (w.onSession i f).failures = w.failures := rfl

@[simp] theorem phase_onSession : (w.onSession i f).phase = w.phase := rfl

@[simp] theorem isShutdown_onSession : (w.onSession i f).isShutdown = w.isShutdown := rfl

@[simp] theorem control_onSession : (w.onSession i f).control = w.control := rfl

end

/-- The session in use. -/
def current (w : World) : Session := w.session w.held

/-- The time at which a wait of the agent is over, if its wait has such a time. -/
def wake? (w : World) : Option Nat :=
  match w.control with
  | .writing _ _ deadline => deadline
  | .retrying _ _ wake | .resting wake | .backingOff _ wake => some wake
  | .starting _ deadline => some deadline
  | _ => none

end World

/-- A state of an agent and what happened on the way to it. -/
structure Move where
  world : World
  happened : List Happening

namespace Move

/-- Nothing has happened. -/
def stay (w : World) : Move := ⟨w, []⟩

/-- One more thing happens. -/
def happen (m : Move) (h : Happening) : Move := { m with happened := m.happened ++ [h] }

/-- The agent reports an event. -/
def log (m : Move) (level : Level) (message : String) (fields : List (String × String)) : Move :=
  m.happen (.logged ⟨.agent, level, message, fields⟩)

/-- The state changes unnoticed. -/
def change (m : Move) (f : World → World) : Move := { m with world := f m.world }

/-- The agent goes on at another point of its work. -/
def goto (m : Move) (control : Control) : Move := m.change fun w => { w with control }

/-- A phase is published; only a change of the phase is noticed. -/
def publish (m : Move) (phase : Phase) : Move :=
  if m.world.phase = phase then m
  else
    ((m.change fun w => { w with phase }).happen (.published phase)).log .debug
      "Launcher state changed" [("from", m.world.phase.render), ("to", phase.render)]

/-- A session is closed; closing it again changes nothing. -/
def close (m : Move) (i : Nat) : Move :=
  (m.change fun w => w.onSession i Session.stop).happen (.closed i)

/-- A session is asked for. -/
def askSession (m : Move) (purpose : Purpose) : Move := (m.goto (.opening purpose)).happen .opening

/-- What is noticed when a phase is published. -/
def publication (old new : Phase) : List Happening :=
  if old = new then []
  else
    [.published new,
      .logged ⟨.agent, .debug, "Launcher state changed", [("from", old.render), ("to", new.render)]⟩]

@[simp] theorem world_stay (w : World) : (stay w).world = w := rfl

@[simp] theorem happened_stay (w : World) : (stay w).happened = [] := rfl

@[simp] theorem world_happen (m : Move) (h : Happening) : (m.happen h).world = m.world := rfl

@[simp] theorem happened_happen (m : Move) (h : Happening) :
    (m.happen h).happened = m.happened ++ [h] := rfl

@[simp] theorem world_log (m : Move) (level : Level) (message : String)
    (fields : List (String × String)) : (m.log level message fields).world = m.world := rfl

@[simp] theorem happened_log (m : Move) (level : Level) (message : String)
    (fields : List (String × String)) :
    (m.log level message fields).happened =
      m.happened ++ [.logged ⟨.agent, level, message, fields⟩] := rfl

@[simp] theorem world_change (m : Move) (f : World → World) : (m.change f).world = f m.world := rfl

@[simp] theorem happened_change (m : Move) (f : World → World) :
    (m.change f).happened = m.happened := rfl

@[simp] theorem world_goto (m : Move) (control : Control) :
    (m.goto control).world = { m.world with control } := rfl

@[simp] theorem happened_goto (m : Move) (control : Control) :
    (m.goto control).happened = m.happened := rfl

@[simp] theorem world_publish (m : Move) (phase : Phase) :
    (m.publish phase).world = { m.world with phase } := by
  unfold publish
  split
  · rename_i same
    rw [← same]
  · rfl

@[simp] theorem happened_publish (m : Move) (phase : Phase) :
    (m.publish phase).happened = m.happened ++ publication m.world.phase phase := by
  unfold publish publication
  split
  · simp
  · simp

@[simp] theorem world_close (m : Move) (i : Nat) :
    (m.close i).world = m.world.onSession i Session.stop := rfl

@[simp] theorem happened_close (m : Move) (i : Nat) :
    (m.close i).happened = m.happened ++ [.closed i] := rfl

@[simp] theorem world_askSession (m : Move) (purpose : Purpose) :
    (m.askSession purpose).world = { m.world with control := .opening purpose } := rfl

@[simp] theorem happened_askSession (m : Move) (purpose : Purpose) :
    (m.askSession purpose).happened = m.happened ++ [.opening] := rfl

end Move

end FunctionAgent.Agent
