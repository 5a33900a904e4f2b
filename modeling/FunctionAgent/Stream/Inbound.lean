import FunctionAgent.Failure
import FunctionAgent.Text.Quoted
/-!
# The reading half of a stream

Delivered messages wait in a queue, and the first sign that the stream is over is kept. The end does
not discard what waits: messages are handed out in the order of their delivery, and only an empty
queue shows the end. Reading takes two looks, one at the queue and one at the end, and another party
may deliver between them.
-/

set_option autoImplicit false

namespace FunctionAgent

open FunctionAgent.Text

/-- How a stream came to its end. -/
inductive StreamEnd where
  /-- One of the two sides completed it. -/
  | completed
  | failed (cause : String)
  deriving DecidableEq, Repr

namespace StreamEnd

/-- The text of an end. -/
def message : StreamEnd → String
  | .completed => "stream completed"
  | .failed cause => cause

/-- An end as it is shown for inspection. -/
def render : StreamEnd → String
  | .completed => "Completed"
  | .failed cause => "Failed(" ++ quoted cause ++ ")"

end StreamEnd

/-- The reading half of a stream. -/
structure Inbound (α : Type) where
  /-- Messages that wait, the oldest first. -/
  queue : List α
  ended : Option StreamEnd
  deriving DecidableEq, Repr

namespace Inbound

variable {α : Type}

/-- Nothing has arrived. -/
def empty : Inbound α := ⟨[], none⟩

instance : Inhabited (Inbound α) := ⟨empty⟩

/-- Delivers a message. -/
def push (i : Inbound α) (a : α) : Inbound α := { i with queue := i.queue ++ [a] }

/-- Ends the stream, unless it has ended. -/
def finish (i : Inbound α) (how : StreamEnd) : Inbound α := { i with ended := i.ended <|> some how }

/-- Ends the stream in a failure. -/
def fail (i : Inbound α) (cause : String) : Inbound α := i.finish (.failed cause)

/-- Ends the stream in good order, from either side. -/
def complete (i : Inbound α) : Inbound α := i.finish .completed

/-- The oldest message, with the queue behind it. -/
def pop? (i : Inbound α) : Option (α × Inbound α) :=
  match i.queue with
  | [] => none
  | a :: rest => some (a, { i with queue := rest })

/-- What an empty queue means: nothing yet, or nothing any more. -/
def verdict (i : Inbound α) : Except TransportFailure (Option α) :=
  match i.ended with
  | none => .ok none
  | some how => .error (.streamEnded how.message)

/-- Takes the oldest message without waiting for one. -/
def receive (i : Inbound α) : Except TransportFailure (Option α) × Inbound α :=
  match i.pop? with
  | some (a, left) => (.ok (some a), left)
  | none => (i.verdict, i)

/-- Delivers what a source gives up to its first failure; a source that runs dry completes. -/
def feed : Inbound α → List (Except String α) → Inbound α
  | i, [] => i.complete
  | i, .ok a :: rest => (i.push a).feed rest
  | i, .error cause :: _ => i.fail cause

/-- The reading half as it is shown for inspection. -/
def render (i : Inbound α) : String :=
  "InboundCollector \x7b queued: " ++ toString i.queue.length ++ ", end: "
    ++ maybe (i.ended.map StreamEnd.render) ++ " \x7d"

@[simp] theorem queue_push (i : Inbound α) (a : α) : (i.push a).queue = i.queue ++ [a] := rfl

@[simp] theorem ended_push (i : Inbound α) (a : α) : (i.push a).ended = i.ended := rfl

@[simp] theorem queue_finish (i : Inbound α) (how : StreamEnd) :
    (i.finish how).queue = i.queue := rfl

@[simp] theorem ended_finish (i : Inbound α) (how : StreamEnd) :
    (i.finish how).ended = (i.ended <|> some how) := rfl

end Inbound

end FunctionAgent
