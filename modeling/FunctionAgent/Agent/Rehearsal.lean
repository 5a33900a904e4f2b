import FunctionAgent.Agent.Act
/-!
# Rehearsals

A rehearsal runs an agent against a script. The script says what comes of each open and of each
start of a function, and what the broker and the operator do meanwhile. Time is the clock of the
agent: it stands still while anything is left to do and then jumps to the next thing that is due, so
a rehearsal of a whole day takes no longer than its events. What there was to be seen is kept until
somebody looks.
-/

set_option autoImplicit false

namespace FunctionAgent.Agent

/-! ## Scripts -/

/-- What comes of asking for a session. -/
structure Offer where
  answer : Except SessionFailure Session
  /-- Whether the broker reads what the agent writes at once, or only when it is told to. -/
  isReadAtOnce : Bool
  /-- Milliseconds until the answer. -/
  delay : Nat

/-- What comes of asking for a session when the script says nothing more. -/
def Offer.none : Offer := ⟨.error (.connection "broker unreachable"), false, 0⟩

/-- What comes of asking the executor to start a function. -/
structure StartReply where
  answer : Except StartFailure Unit
  /-- Milliseconds until the answer. -/
  delay : Nat

/-- What the broker or the operator does. -/
inductive Cue where
  /-- The broker acts at its end of the session with this index. -/
  | peer (session : Nat) (act : Session.PeerAct)
  /-- The broker reads everything that waits on a session. -/
  | readAll (session : Nat)
  | requestShutdown
  /-- Somebody waits for the end of the agent, but not for longer than a limit. -/
  | awaitStop (limit : Nat)
  | nothing

/-- A script for the rehearsal of an agent. -/
structure Script where
  settings : Settings
  functions : List Function
  purpose : Purpose
  offers : List Offer
  /-- The last reply is given again and again. -/
  replies : List StartReply
  /-- What is done to an agent that was started and is not driven yet; each cue is followed by a
  pause in milliseconds. -/
  before : List (Cue × Nat)
  /-- Whether the agent is given up instead of being driven. -/
  isDropped : Bool
  /-- What is done while the agent is driven. -/
  cues : List (Cue × Nat)
  /-- How long the end of the agent is waited for at last. -/
  patience : Nat

/-! ## What is seen -/

/-- What there was to be seen, with its time where somebody watched it happen. -/
inductive Sight where
  | opened (time : Nat)
  | startAsked (time : Nat) (function : Function) (sessionInfo : List UInt8)
  | read (session : Nat) (time : Option Nat) (update : Update)
  | halfClosed (session : Nat) (time : Nat)
  | logged (event : Event)

/-- One look at a rehearsal: what is new since the last look, and what holds now. -/
structure Look where
  now : Nat
  sights : List Sight
  /-- The tokens of all scripted sessions. -/
  tokens : List Bearer
  phase : Phase
  isShutdown : Bool

/-- A rehearsal that is under way. -/
structure Rehearsal where
  world : World
  /-- Offers that were not made yet; while an open is in flight the first is its answer. -/
  offers : List Offer
  replies : List StartReply
  /-- When the open in flight is answered. -/
  openDue : Option Nat
  /-- When the executor answers, and what. -/
  startDue : Option (Nat × Except StartFailure Unit)
  /-- What the broker has sent while the agent was about to move; it arrives once the agent
  waits. -/
  inTransit : List (Nat × Session.PeerAct)
  /-- Whether each opened session is read at once. -/
  attended : List Bool
  /-- The sessions whose end was seen. -/
  ended : List Nat
  /-- What was seen since the last look, the latest first. -/
  sights : List Sight

namespace Rehearsal

/-- One more thing is seen. -/
def see (r : Rehearsal) (s : Sight) : Rehearsal := { r with sights := s :: r.sights }

/-- The script takes its part in what happens: an open and a start get their answers scheduled. -/
def notice (r : Rehearsal) : Happening → Rehearsal
  | .opening =>
    { r with openDue := some (r.world.clock + (r.offers.headD Offer.none).delay) }.see
      (.opened r.world.clock)
  | .starting f sessionInfo =>
    let reply := r.replies.headD ⟨.ok (), 0⟩
    { r with
      startDue := some (r.world.clock + reply.delay, reply.answer)
      replies := if r.replies.length ≤ 1 then r.replies else r.replies.tail }.see
      (.startAsked r.world.clock f sessionInfo)
  | .logged event => r.see (.logged event)
  | .taken _ _ | .refreshed _ _ | .written _ _ _ | .closed _ | .published _ => r

/-- The rehearsal after a move. -/
def follow (r : Rehearsal) (m : Move) : Rehearsal :=
  m.happened.foldl notice { r with world := m.world }

/-- The rehearsal after an act; an act that is not possible changes nothing. -/
def perform (r : Rehearsal) (act : Act) : Rehearsal :=
  match r.world.act act with
  | some m => r.follow m
  | none => r

/-- The beginning of a rehearsal. -/
def start (s : Script) : Rehearsal :=
  let m := World.create s.settings s.functions s.purpose
  { world := m.world, offers := s.offers, replies := s.replies, openDue := none, startDue := none,
    inTransit := [], attended := [], ended := [], sights := [] : Rehearsal }.follow m

/-! ## The course of things -/

/-- The open in flight is answered. -/
def answerOpen (r : Rehearsal) : Rehearsal :=
  let offer := r.offers.headD Offer.none
  { r with
    offers := r.offers.tail
    openDue := none
    attended := if offer.answer.isOk then r.attended ++ [offer.isReadAtOnce] else r.attended
    }.perform (.answerOpen offer.answer)

/-- The broker reads the oldest message of a session; somebody may watch. -/
def readOne (time : Option Nat) (i : Nat) (r : Rehearsal) : Rehearsal :=
  match (r.world.session i).stream.outbound.read.1 with
  | .received update => (r.perform (.peer i (.outbound .read))).see (.read i time update)
  | .empty | .finished | .noPeer => r

/-- The broker reads everything that waits on a session. -/
def readAll (time : Option Nat) (r : Rehearsal) (i : Nat) : Rehearsal :=
  (r.world.session i).stream.outbound.queue.foldl (fun r _ => r.readOne time i) r

/-- Whether a session that is read at once has something to be seen. -/
def hasNews (r : Rehearsal) (i : Nat) : Bool :=
  r.attended.getD i false &&
    match (r.world.session i).stream.outbound.read.1 with
    | .received _ => true
    | .finished => !r.ended.contains i
    | .empty | .noPeer => false

/-- The broker reads a session that is read at once, and sees its end. -/
def attend (r : Rehearsal) (i : Nat) : Rehearsal :=
  if r.attended.getD i false then
    let r := r.readAll (some r.world.clock) i
    if r.hasNews i then { r with ended := i :: r.ended }.see (.halfClosed i r.world.clock) else r
  else r

/-- The indices of the opened sessions. -/
def indices (r : Rehearsal) : List Nat := List.range r.world.sessions.length

/-- All sessions that are read at once are read. -/
def attendAll (r : Rehearsal) : Rehearsal := r.indices.foldl attend r

/-- The next thing that happens without any time passing where no answer is due: a move of the
agent; once it waits, the arrival of what was in transit; and after that what is read at once. -/
def quietTick? (r : Rehearsal) : Option Rehearsal :=
  match r.world.proceed, r.inTransit with
  | some m, _ => some (r.follow m)
  | none, (i, act) :: rest => some ({ r with inTransit := rest }.perform (.peer i act))
  | none, [] => if r.indices.any r.hasNews then some r.attendAll else none

/-- The next thing that happens without any time passing; answers that are due come first. -/
def tick? (r : Rehearsal) : Option Rehearsal :=
  if r.openDue.any (· ≤ r.world.clock) then some r.answerOpen
  else
    match r.startDue with
    | some (due, answer) =>
      if due ≤ r.world.clock then some ({ r with startDue := none }.perform (.answerStart answer))
      else r.quietTick?
    | none => r.quietTick?

/-- The time of the next thing that is due. -/
def due? (r : Rehearsal) : Option Nat :=
  (r.openDue.toList ++ (r.startDue.map Prod.fst).toList ++ r.world.wake?.toList).min?

/-- Time passes until the clock shows a time. -/
def elapseTo (r : Rehearsal) (time : Nat) : Rehearsal := r.perform (.elapse (time - r.world.clock))

/-- Things take their course until `isOver` holds or the clock shows `target`. What is due at
`target` is still to come then. -/
def play (isOver : World → Bool) (target : Option Nat) : (fuel : Nat) → Rehearsal → Rehearsal
  | 0, r => r
  | fuel + 1, r =>
    if isOver r.world then r
    else
      match r.tick?, r.due?, target with
      | some next, _, _ => play isOver target fuel next
      | none, some due, some time =>
        if due < time then play isOver target fuel (r.elapseTo due) else r.elapseTo time
      | none, some due, none => play isOver target fuel (r.elapseTo due)
      | none, none, some time => r.elapseTo time
      | none, none, none => r

/-- Steps that are enough for every script that ends in reasonable time. -/
def fuel : Nat := 100_000_000

/-- Things take their course for some time; for no time at all nothing happens. -/
def pause (r : Rehearsal) (ms : Nat) : Rehearsal :=
  if ms = 0 then r else r.play (fun _ => false) (some (r.world.clock + ms)) fuel

/-! ## Cues -/

/-- The script changes a session that was not opened yet. -/
def onOffer (f : Session → Session) : (i : Nat) → List Offer → List Offer
  | _, [] => []
  | i, offer :: offers =>
    match offer.answer, i with
    | .error _, i => offer :: onOffer f i offers
    | .ok session, 0 => { offer with answer := .ok (f session) } :: offers
    | .ok _, i + 1 => offer :: onOffer f i offers

/-- Whether an act of the broker takes a way on which it can be overtaken. -/
def isSent : Session.PeerAct → Bool
  | .deliver _ | .endFeed _ => true
  | .outbound _ => false

/-- The broker acts at its end of a session, opened or not. -/
def peer (r : Rehearsal) (i : Nat) (act : Session.PeerAct) : Rehearsal :=
  if i < r.world.sessions.length then
    if isSent act && !r.world.isWaiting then { r with inTransit := r.inTransit ++ [(i, act)] }
    else r.perform (.peer i act)
  else
    { r with offers := onOffer (fun s => s.peerAct act) (i - r.world.sessions.length) r.offers }

/-- Whether an agent has stopped. -/
def isStopped (w : World) : Bool := w.phase == .stopped

/-- The rehearsal after a cue; for a wait, also whether the agent has stopped. -/
def cue (r : Rehearsal) : Cue → Rehearsal × Option Bool
  | .peer i act => (r.peer i act, none)
  | .readAll i => (r.readAll none i, none)
  | .requestShutdown => (r.perform .requestShutdown, none)
  | .awaitStop limit =>
    let r := (r.play isStopped (some (r.world.clock + limit)) fuel).attendAll
    (r, some (isStopped r.world))
  | .nothing => (r, none)

/-- The tokens of all scripted sessions, opened or not. -/
def tokens (r : Rehearsal) : List Bearer :=
  r.world.sessions.map Session.bearer
    ++ r.offers.filterMap fun offer => offer.answer.toOption.map Session.bearer

/-- A look at the rehearsal. -/
def look (r : Rehearsal) : Look × Rehearsal :=
  (⟨r.world.clock, r.sights.reverse, r.tokens, r.world.phase, r.world.isShutdown⟩,
    { r with sights := [] })

/-- Cues one after the other, with a look after each pause. -/
def cues (r : Rehearsal) : List (Cue × Nat) → List (Look × Option Bool) × Rehearsal
  | [] => ([], r)
  | (cue, ms) :: rest =>
    let (r, stopped) := r.cue cue
    let (look, r) := (r.pause ms).look
    let (looks, r) := r.cues rest
    ((look, stopped) :: looks, r)

/-- The broker reads everything that waits on any session. -/
def readRest (r : Rehearsal) : Rehearsal :=
  r.attendAll.indices.foldl (fun r i => r.readAll none i) r.attendAll

end Rehearsal

/-! ## Reports -/

/-- What came of a rehearsal. -/
inductive Report where
  /-- No session could be opened at the start. -/
  | unstarted (failure : SessionFailure) (seen : Look)
  /-- The agent was started and given up. -/
  | dropped (functions : Roster) (seen : Look) (before : List (Look × Option Bool)) (last : Look)
  /-- The agent was driven; it may still be at work. -/
  | driven (functions : Roster) (seen : Look) (before steps : List (Look × Option Bool))
      (result : Option Result) (last : Look)
  /-- A count or a pause became too large. -/
  | overflowed

namespace Script

/-- Whether the start of an agent is over. -/
def isStarted (w : World) : Bool :=
  match w.control with
  | .ready | .unstarted _ | .overflowed => true
  | _ => false

/-- The result of an agent that has come to its end. -/
def result? (w : World) : Option Result :=
  match w.control with
  | .finished result => some result
  | _ => none

/-- Whether an agent failed to represent a number. -/
def isOverflowed (w : World) : Bool :=
  match w.control with
  | .overflowed => true
  | _ => false

/-- The rehearsal of an agent that was started. -/
def rehearseStarted (s : Script) (r : Rehearsal) : Report :=
  let functions := r.world.roster
  let (seen, r) := r.look
  let (before, r) := r.cues s.before
  if s.isDropped then .dropped functions seen before (r.perform .drop).readRest.look.1
  else
    let (steps, r) := (r.perform .run).cues s.cues
    let r := r.play (fun w => (result? w).isSome || isOverflowed w)
      (some (r.world.clock + s.patience)) Rehearsal.fuel
    if isOverflowed r.world then .overflowed
    else .driven functions seen before steps (result? r.world) r.readRest.look.1

/-- Rehearses a script. -/
def rehearse (s : Script) : Report :=
  let r := (Rehearsal.start s).play isStarted none Rehearsal.fuel
  match r.world.control with
  | .unstarted failure => .unstarted failure r.readRest.look.1
  | .overflowed => .overflowed
  | _ => s.rehearseStarted r.attendAll

end Script

end FunctionAgent.Agent
