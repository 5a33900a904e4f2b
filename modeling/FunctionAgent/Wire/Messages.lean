import FunctionAgent.Wire.Schema
import FunctionAgent.Broker.Update
/-!
# The messages of the broker protocol

The schema of every message, and the encoding of the update, whose payload is a nested message: one
of four, told apart by the field number. A payload is written even if all its fields are zero. When
a payload is read twice, the same kind merges into the value at hand and another kind replaces it.
-/

set_option autoImplicit false

namespace FunctionAgent.Wire

/-- The message without fields. -/
def empty : Schema Unit where
  name := "EmptyMessage"
  blank := ()
  fields := []

/-- The schema of credentials. -/
def credentials : Schema Credentials where
  name := "Authenticate"
  blank := ⟨"", "", ""⟩
  fields :=
    [⟨1, "client_id", .text (·.clientId) fun v m => { m with clientId := v }⟩,
      ⟨2, "client_secret", .text (·.clientSecret) fun v m => { m with clientSecret := v }⟩,
      ⟨3, "cluster_id", .text (·.clusterId) fun v m => { m with clusterId := v }⟩]

/-- The schema of a token. -/
def token : Schema Token where
  name := "FunctionBrokerToken"
  blank := ⟨""⟩
  fields := [⟨1, "value", .text (·.value) fun v m => { m with value := v }⟩]

/-- The schema of a call. -/
def call : Schema Call where
  name := "FunctionCall"
  blank := ⟨"", []⟩
  fields :=
    [⟨1, "id", .text (·.id) fun v m => { m with id := v }⟩,
      ⟨2, "session_info", .blob (·.sessionInfo) fun v m => { m with sessionInfo := v }⟩]

/-- The schema of a registration. -/
def registration : Schema Registration where
  name := "FunctionRegistration"
  blank := ⟨"", "", "", "", "", 0⟩
  fields :=
    [⟨1, "id", .text (·.id) fun v m => { m with id := v }⟩,
      ⟨2, "name", .text (·.name) fun v m => { m with name := v }⟩,
      ⟨3, "signature", .text (·.signature) fun v m => { m with signature := v }⟩,
      ⟨4, "version", .text (·.version) fun v m => { m with version := v }⟩,
      ⟨5, "description", .text (·.description) fun v m => { m with description := v }⟩,
      ⟨6, "state", .number (·.state) fun v m => { m with state := v }⟩]

/-- The schema of a reconnect notice. -/
def reconnect : Schema Reconnect where
  name := "FunctionBrokerReconnect"
  blank := ⟨0⟩
  fields :=
    [⟨1, "seconds_until_disconnect", .number (·.seconds) fun v m => { m with seconds := v }⟩]

/-- The schema of a function signature. -/
def signature : Schema Signature where
  name := "FunctionSignature"
  blank := ⟨"", ""⟩
  fields :=
    [⟨1, "id", .text (·.id) fun v m => { m with id := v }⟩,
      ⟨2, "signature", .text (·.signature) fun v m => { m with signature := v }⟩]

/-- The simple fields of an update. -/
def envelope : Schema Update where
  name := "FunctionUpdate"
  blank := ⟨0, 0, "", none⟩
  fields :=
    [⟨1, "r#type", .number (·.kind) fun v m => { m with kind := v }⟩,
      ⟨2, "response", .number (·.response) fun v m => { m with response := v }⟩,
      ⟨3, "response_description", .text (·.description) fun v m => { m with description := v }⟩]

/-- The name of the field of an update that holds its payload. -/
def payloadLabel : String := "function_data"

namespace Payload

/-- The field number of a payload. -/
def number : Payload → Nat
  | .call _ => 10
  | .registration _ => 11
  | .token _ => 12
  | .reconnect _ => 13

/-- The fields of a payload. -/
def body : Payload → Bytes
  | .call c => call.encode c
  | .registration r => registration.encode r
  | .token t => token.encode t
  | .reconnect n => reconnect.encode n

/-- The encoded payload. -/
def encode (p : Payload) : Bytes :=
  encodeKey (number p) .lengthDelimited ++ encodeDelimited (body p)

/-- Reads the payload in a field, starting from the one at hand if it is of the same kind; `none`
if the field holds no payload. -/
def merge? (depth number : Nat) (kind : WireType) (current : Option Payload) (bytes : Bytes) :
    Option (Except Fault (Payload × Bytes)) :=
  match number with
  | 10 =>
    let start := match current with | some (.call c) => c | _ => call.blank
    some ((call.mergeNested depth kind start bytes).map fun (c, rest) => (.call c, rest))
  | 11 =>
    let start := match current with | some (.registration r) => r | _ => registration.blank
    some ((registration.mergeNested depth kind start bytes).map
      fun (r, rest) => (.registration r, rest))
  | 12 =>
    let start := match current with | some (.token t) => t | _ => token.blank
    some ((token.mergeNested depth kind start bytes).map fun (t, rest) => (.token t, rest))
  | 13 =>
    let start := match current with | some (.reconnect n) => n | _ => reconnect.blank
    some ((reconnect.mergeNested depth kind start bytes).map fun (n, rest) => (.reconnect n, rest))
  | _ => none

end Payload

namespace Update

/-- The encoded update. -/
def encode (u : Update) : Bytes :=
  envelope.encode u ++ match u.payload with
    | some p => Payload.encode p
    | none => []

/-- Reads one field of an update with its key. -/
def mergeField (u : Update) (bytes : Bytes) : Except Fault (Update × Bytes) :=
  match readKey bytes with
  | .error e => .error (.bare e)
  | .ok (number, kind, rest) =>
    match Payload.merge? (depthLimit - 1) number kind u.payload rest with
    | some (.ok (p, rest)) => .ok ({ u with payload := some p }, rest)
    | some (.error e) => .error (e.inside envelope.name payloadLabel)
    | none => envelope.mergeValue depthLimit number kind u rest

/-- Reads a whole input as one update. -/
def decode (bytes : Bytes) : Except Fault Update :=
  (mergeUntil mergeField 0 bytes.length envelope.blank bytes).map (·.1)

end Update

end FunctionAgent.Wire
