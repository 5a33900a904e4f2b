import FunctionAgent.Stream.Inbound
import FunctionAgent.Stream.Outbound
/-!
# A stream in both directions

A duplex stream joins a writing and a reading half. A source of the peer's messages feeds the
reading half until it fails or runs dry; it goes on after the agent has stopped the stream, since
stopping only closes the writing half and marks the reading half as completed.
-/

set_option autoImplicit false

namespace FunctionAgent

/-- A stream in both directions. -/
structure Duplex (σ ρ : Type) where
  inbound : Inbound ρ
  outbound : Outbound σ
  /-- Whether the peer's messages still come in. -/
  isFed : Bool

namespace Duplex

variable {σ ρ : Type}

/-- A stream over an open writing half. -/
def start (outbound : Outbound σ) : Duplex σ ρ := ⟨.empty, outbound, true⟩

instance : Inhabited (Duplex σ ρ) := ⟨start default⟩

/-- A stream as the answer to a call; a refused call gives none. -/
def ofAnswer (refusal : Option Status) : Except TransportFailure (Duplex σ ρ) :=
  match refusal with
  | some status => .error (.ofStatus status)
  | none => .ok (start (.fresh Outbound.defaultCapacity))

/-- The peer delivers a message. -/
def deliver (d : Duplex σ ρ) (a : ρ) : Duplex σ ρ :=
  if d.isFed then { d with inbound := d.inbound.push a } else d

/-- The peer ends its messages. -/
def endFeed (d : Duplex σ ρ) (how : StreamEnd) : Duplex σ ρ :=
  if d.isFed then { d with inbound := d.inbound.finish how, isFed := false } else d

/-- Takes the oldest message without waiting for one. -/
def receive (d : Duplex σ ρ) : Except TransportFailure (Option ρ) × Duplex σ ρ :=
  (d.inbound.receive.1, { d with inbound := d.inbound.receive.2 })

/-- Closes the writing half and completes the reading half. -/
def stop (d : Duplex σ ρ) : Duplex σ ρ :=
  { d with inbound := d.inbound.complete, outbound := d.outbound.stop }

/-- The stream as it is shown for inspection. -/
def render (d : Duplex σ ρ) : String :=
  "Communicator \x7b inbound: " ++ d.inbound.render ++ ", outbound: " ++ d.outbound.render
    ++ " \x7d"

end Duplex

end FunctionAgent
