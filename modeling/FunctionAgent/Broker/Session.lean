import FunctionAgent.Broker.Bearer
import FunctionAgent.Broker.Message
import FunctionAgent.Stream.Duplex
/-!
# Sessions

A session is one authenticated stream to the broker: updates go both ways on it, and the token slot
that its calls carry belongs to it. After a lost stream a session is replaced as a whole.
-/

set_option autoImplicit false

namespace FunctionAgent

/-- One authenticated stream to the broker. -/
structure Session where
  bearer : Bearer
  stream : Duplex Update Update

namespace Session

/-- A session with its first token over an open stream. -/
def start (token : String) (stream : Duplex Update Update) : Session := ⟨some token, stream⟩

instance : Inhabited Session := ⟨start "" default⟩

/-- Uses a fresh token from now on. -/
def refresh (s : Session) (token : String) : Session := { s with bearer := some token }

/-- A write fault as it is seen from a session. -/
def writeFailure (f : WriteFault) : SessionFailure := .ofTransport f.failure

/-- Takes the oldest update without waiting for one. -/
def receive (s : Session) : Except SessionFailure (Option Update) × Session :=
  (s.stream.receive.1.mapError .ofTransport, { s with stream := s.stream.receive.2 })

/-- Closes the stream. -/
def stop (s : Session) : Session := { s with stream := s.stream.stop }

/-- The session with another writing half. -/
def withOutbound (s : Session) (o : Outbound Update) : Session :=
  { s with stream := { s.stream with outbound := o } }

/-- What the broker does at its end of a session. -/
inductive PeerAct where
  | deliver (update : Update)
  | endFeed (how : StreamEnd)
  /-- It treats the queue of the agent's messages in some way. -/
  | outbound (act : Outbound.Act)

/-- The session after an act of the broker. -/
def peerAct (s : Session) : PeerAct → Session
  | .deliver update => { s with stream := s.stream.deliver update }
  | .endFeed how => { s with stream := s.stream.endFeed how }
  | .outbound act => s.withOutbound (s.stream.outbound.act act).2

/-- The session as it is shown for inspection. -/
def render (s : Session) : String :=
  "BrokerSession \x7b headers: " ++ s.bearer.render ++ ", communicator: " ++ s.stream.render
    ++ " \x7d"

end Session

end FunctionAgent
