import FunctionAgent.Broker.Account
import FunctionAgent.Broker.Session
import FunctionAgent.Channel.Address
/-!
# The handshake

A session begins with a channel to the broker, the exchange of the credentials for a token, and the
call that opens the stream. A fresh function signature is asked for in the same way. The first call
carries no token, the second one carries the fresh one. Nothing that goes wrong here is recoverable.
-/

set_option autoImplicit false

namespace FunctionAgent

/-- What the broker is asked for. -/
inductive BrokerCall where
  | token (credentials : Credentials)
  | stream
  | signature
  deriving DecidableEq, Repr

/-- A call with its headers. -/
structure BrokerRequest where
  call : BrokerCall
  headers : Headers
  deriving DecidableEq, Repr

/-- How a broker answers. -/
structure Broker where
  /-- Why no channel to it can be opened, if so. -/
  barrier : Option String
  token : Except Status Token
  stream : Except Status Unit
  signature : Except Status Signature

namespace Broker

/-- A broker to which no channel can be opened. -/
def unreachable (reason : String) : Broker :=
  ⟨some reason, .error Bearer.invalid, .error Bearer.invalid, .error Bearer.invalid⟩

end Broker

namespace Handshake

/-- The requests that were made, and the outcome. -/
abbrev Outcome (α : Type) := List BrokerRequest × Except SessionFailure α

/-- Opens the channel. -/
def openChannel (a : Account) (b : Broker) : Except SessionFailure Unit :=
  if Address.isValid a.endpoint then
    match b.barrier with
    | none => .ok ()
    | some reason => .error (.ofTransport (.connectionFailed reason))
  else .error (.ofTransport (.invalidAddress Address.invalidMessage))

/-- What a refused exchange of the credentials means. -/
def refusal (s : Status) : SessionFailure :=
  match TransportFailure.ofStatus s with
  | .connectionFailed text => .connection text
  | other => .brokerAuthentication other.message

/-- Exchanges the credentials for a token. -/
def authenticate (a : Account) (b : Broker) : Outcome Bearer :=
  match openChannel a b with
  | .error failure => ([], .error failure)
  | .ok () => ([⟨.token a.credentials, []⟩], (b.token.mapError refusal).map fun t => some t.value)

/-- Makes a call that carries the token. -/
def call {α : Type} (slot : Bearer) (c : BrokerCall) (answer : Except Status α) : Outcome α :=
  match slot.apply [] with
  | .error status => ([], .error (.ofTransport (.ofStatus status)))
  | .ok headers =>
    ([⟨c, headers⟩], answer.mapError fun status => .ofTransport (.ofStatus status))

/-- Authenticates, then makes a call that carries the token. -/
def authenticated {α : Type} (a : Account) (b : Broker) (c : BrokerCall)
    (answer : Except Status α) : Outcome (Bearer × α) :=
  match authenticate a b with
  | (requests, .error failure) => (requests, .error failure)
  | (requests, .ok slot) =>
    (requests ++ (call slot c answer).1, (call slot c answer).2.map fun value => (slot, value))

/-- Opens a session. -/
def connect (a : Account) (b : Broker) : Outcome Session :=
  let outcome := authenticated a b .stream b.stream
  (outcome.1, outcome.2.map fun (slot, _) => ⟨slot, .start (.fresh Outbound.defaultCapacity)⟩)

/-- Asks for a fresh function identifier with its signature. -/
def signature (a : Account) (b : Broker) : Outcome Signature :=
  let outcome := authenticated a b .signature b.signature
  (outcome.1, outcome.2.map Prod.snd)

end Handshake

end FunctionAgent
