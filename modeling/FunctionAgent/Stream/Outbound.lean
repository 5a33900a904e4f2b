import FunctionAgent.Failure
import FunctionAgent.Text.Quoted
/-!
# The writing half of a stream

Written messages wait in a queue of bounded size until the peer reads them. A write into a full
queue waits for space, but no longer than a limit. The first write that fails is latched: from then
on every write fails in the same way and nothing is added to the queue any more. Stopping only
closes the stream; what waits can still be read.
-/

set_option autoImplicit false

namespace FunctionAgent

open FunctionAgent.Text

/-- Why a write failed. -/
inductive WriteFault where
  /-- The agent had closed the stream. -/
  | stopped
  /-- The peer takes no more messages. -/
  | closedByPeer
  /-- There was no space within the limit. -/
  | stalled (limit : Span)
  deriving DecidableEq

namespace WriteFault

/-- The text of a write fault. -/
def message : WriteFault → String
  | .stopped => "request stream stopped"
  | .closedByPeer => "request stream closed by the broker"
  | .stalled limit => "request stream stalled for " ++ limit.render

/-- A write fault as a transport failure. -/
def failure (f : WriteFault) : TransportFailure := .streamEnded f.message

end WriteFault

/-- What the reading end of the queue does. -/
inductive Peer where
  /-- It reads, now or later. -/
  | reading
  /-- It takes no more messages but may still read those that wait. -/
  | shut
  /-- It is gone, with what it had not read. -/
  | gone
  deriving DecidableEq, Repr

/-- The writing half of a stream. -/
structure Outbound (α : Type) where
  capacity : Nat
  /-- Messages that wait for the peer, the oldest first. -/
  queue : List α
  peer : Peer
  isStopped : Bool
  latched : Option WriteFault
  /-- How long a write waits for space. -/
  limit : Span
  deriving DecidableEq

/-- What a peer finds when it reads. -/
inductive Reading (α : Type) where
  | received (a : α)
  /-- Nothing waits, but more may come. -/
  | empty
  /-- Nothing waits and nothing will come. -/
  | finished
  /-- The peer itself is gone. -/
  | noPeer
  deriving DecidableEq, Repr

namespace Outbound

variable {α : Type}

/-- The size of a queue where none is chosen. -/
def defaultCapacity : Nat := 100

/-- The limit of a write where none is chosen. -/
def defaultLimit : Span := .ofSeconds 5

/-- A fresh writing half. -/
def fresh (capacity : Nat) : Outbound α := ⟨capacity, [], .reading, false, none, defaultLimit⟩

instance : Inhabited (Outbound α) := ⟨fresh defaultCapacity⟩

/-- The writing half with another limit. -/
def withLimit (o : Outbound α) (limit : Span) : Outbound α := { o with limit := limit }

/-- Latches a write fault. -/
def latch (o : Outbound α) (f : WriteFault) : Outbound α := { o with latched := some f }

/-- Closes the stream. -/
def stop (o : Outbound α) : Outbound α := { o with isStopped := true }

/-- The outcome of a write that does not have to wait, or that has waited. -/
abbrev Written (α : Type) := Except WriteFault Unit × Outbound α

/-- Writes a message if that can be settled at once; a full queue makes the writer wait. -/
def write? (o : Outbound α) (a : α) : Option (Written α) :=
  match o.latched with
  | some f => some (.error f, o)
  | none =>
    if o.isStopped then some (.error .stopped, o.latch .stopped)
    else if o.peer ≠ .reading then some (.error .closedByPeer, o.latch .closedByPeer)
    else if o.queue.length < o.capacity then some (.ok (), { o with queue := o.queue ++ [a] })
    else none

/-- Gives a waiting write up. -/
def giveUp (o : Outbound α) : Written α := (.error (.stalled o.limit), o.latch (.stalled o.limit))

/-- The peer reads a message. -/
def read (o : Outbound α) : Reading α × Outbound α :=
  match o.peer, o.queue with
  | .gone, _ => (.noPeer, o)
  | _, a :: rest => (.received a, { o with queue := rest })
  | .shut, [] => (.finished, o)
  | .reading, [] => if o.isStopped then (.finished, o) else (.empty, o)

/-- The peer takes no more messages. -/
def shut (o : Outbound α) : Outbound α := if o.peer = .reading then { o with peer := .shut } else o

/-- The peer goes away; what it had not read is lost. -/
def abandon (o : Outbound α) : Outbound α := { o with peer := .gone, queue := [] }

/-- What a peer does while a write waits. -/
inductive Act where
  | read
  | shut
  | abandon
  deriving DecidableEq, Repr

/-- The writing half after an act of the peer, and what the peer read. -/
def act (o : Outbound α) : Act → Option (Reading α) × Outbound α
  | .read => (some o.read.1, o.read.2)
  | .shut => (none, o.shut)
  | .abandon => (none, o.abandon)

/-- A write that came to its end. -/
structure Sent (α : Type) where
  result : Except WriteFault Unit
  after : Outbound α
  /-- Milliseconds that the write took. -/
  elapsed : Nat
  /-- What the peer read in the meantime. -/
  read : List (Reading α)
  /-- What the peer does later. -/
  later : List (Nat × Act)

/-- Writes a message, `now` milliseconds after the write began, while the peer does what it does at
given milliseconds after the beginning. -/
def sendFrom (now : Nat) (o : Outbound α) (a : α) : List (Nat × Act) → Sent α
  | [] =>
    match o.write? a with
    | some (result, after) => ⟨result, after, now, [], []⟩
    | none => ⟨o.giveUp.1, o.giveUp.2, o.limit.ticks, [], []⟩
  | (time, act) :: acts =>
    match o.write? a with
    | some (result, after) => ⟨result, after, now, [], (time, act) :: acts⟩
    | none =>
      if time < o.limit.ticks then
        let sent := sendFrom time (o.act act).2 a acts
        { sent with read := (o.act act).1.toList ++ sent.read }
      else ⟨o.giveUp.1, o.giveUp.2, o.limit.ticks, [], (time, act) :: acts⟩

/-- Writes a message while the peer does what it does. -/
def send (o : Outbound α) (a : α) (acts : List (Nat × Act)) : Sent α := sendFrom 0 o a acts

/-- Writes several messages one after the other while the peer does nothing; gives the outcomes and
the milliseconds that passed. -/
def sendAll (o : Outbound α) : List α → List (Except WriteFault Unit) × Outbound α × Nat
  | [] => ([], o, 0)
  | a :: rest =>
    let sent := o.send a []
    let (results, after, elapsed) := sent.after.sendAll rest
    (sent.result :: results, after, sent.elapsed + elapsed)

/-- Everything that the peer can still read. -/
def drain (o : Outbound α) : List α × Outbound α :=
  if o.peer = .gone then ([], o) else (o.queue, { o with queue := [] })

/-- The writing half as it is shown for inspection. -/
def render (o : Outbound α) : String :=
  "OutboundSender \x7b stopped: " ++ toString o.isStopped ++ ", closing_error: "
    ++ maybe (o.latched.map fun f => "StreamEnded(" ++ quoted f.message ++ ")")
    ++ ", send_timeout: " ++ o.limit.render ++ " \x7d"

end Outbound

end FunctionAgent
