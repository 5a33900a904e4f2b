import FunctionAgent.Uuid
import FunctionAgent.Text.Quoted
/-!
# Updates

One envelope, the update, travels both ways between the agent and the broker. It says whether it is
a request or a response, carries the response's verdict, and holds at most one payload: a call of a
function, the registration of one, a fresh bearer token, or the notice that the broker is about to
drop the stream. The numbers of enumerations are kept as they came, since a newer peer may use
numbers that are not known here; a typed reading gives such a number the meaning "unspecified".
-/

set_option autoImplicit false

namespace FunctionAgent

/-- The request to start a function; the session information is passed on untouched. -/
structure Call where
  id : String
  sessionInfo : List UInt8
  deriving DecidableEq, Repr, Inhabited

/-- A bearer token. -/
structure Token where
  value : String
  deriving DecidableEq, Repr, Inhabited

/-- The notice that the broker will drop the stream. -/
structure Reconnect where
  seconds : Int32
  deriving DecidableEq, Repr, Inhabited

/-- What the broker is told about one function. -/
structure Registration where
  id : String
  name : String
  signature : String
  version : String
  description : String
  state : Int32
  deriving DecidableEq, Repr, Inhabited

/-- The credentials that are exchanged for a token. -/
structure Credentials where
  clientId : String
  clientSecret : String
  clusterId : String
  deriving DecidableEq, Repr, Inhabited

/-- A fresh function id with its signature. -/
structure Signature where
  id : String
  signature : String
  deriving DecidableEq, Repr, Inhabited

/-- What an update is about. -/
inductive Payload where
  | call (call : Call)
  | registration (registration : Registration)
  | token (token : Token)
  | reconnect (notice : Reconnect)
  deriving DecidableEq, Repr

/-- The envelope of everything that travels on the stream. -/
structure Update where
  kind : Int32
  response : Int32
  description : String
  payload : Option Payload
  deriving DecidableEq, Repr, Inhabited

/-- Whether an update asks or answers. -/
inductive UpdateKind where
  | unspecified
  | request
  | response
  deriving DecidableEq, Repr

/-- How a request went. -/
inductive Verdict where
  | unspecified
  | success
  | failed
  deriving DecidableEq, Repr

/-- Whether a function is on offer. -/
inductive Lifecycle where
  | unspecified
  | online
  | offline
  deriving DecidableEq, Repr, Inhabited

namespace UpdateKind

/-- The number on the wire. -/
def number : UpdateKind → Int32
  | .unspecified => 0
  | .request => 1
  | .response => 2

/-- The meaning of a number; unknown numbers are unspecified. -/
def ofNumber (n : Int32) : UpdateKind :=
  if n = 1 then .request else if n = 2 then .response else .unspecified

/-- The kind as one capitalised word. -/
def word : UpdateKind → String
  | .unspecified => "Unspecified"
  | .request => "Request"
  | .response => "Response"

/-- The kind as the schema spells it. -/
def schemaName : UpdateKind → String
  | .unspecified => "FUNCTION_UPDATE_TYPE_UNSPECIFIED"
  | .request => "FUNCTION_UPDATE_TYPE_REQUEST"
  | .response => "FUNCTION_UPDATE_TYPE_RESPONSE"

theorem ofNumber_number (k : UpdateKind) : ofNumber k.number = k := by cases k <;> decide

end UpdateKind

namespace Verdict

/-- The number on the wire. -/
def number : Verdict → Int32
  | .unspecified => 0
  | .success => 1
  | .failed => 2

/-- The meaning of a number; unknown numbers are unspecified. -/
def ofNumber (n : Int32) : Verdict :=
  if n = 1 then .success else if n = 2 then .failed else .unspecified

/-- The verdict as the schema spells it. -/
def schemaName : Verdict → String
  | .unspecified => "FUNCTION_UPDATE_RESPONSE_UNSPECIFIED"
  | .success => "FUNCTION_UPDATE_RESPONSE_SUCCESS"
  | .failed => "FUNCTION_UPDATE_RESPONSE_FAILED"

theorem ofNumber_number (v : Verdict) : ofNumber v.number = v := by cases v <;> decide

end Verdict

namespace Lifecycle

/-- The number on the wire. -/
def number : Lifecycle → Int32
  | .unspecified => 0
  | .online => 1
  | .offline => 2

/-- The meaning of a number; unknown numbers are unspecified. -/
def ofNumber (n : Int32) : Lifecycle :=
  if n = 1 then .online else if n = 2 then .offline else .unspecified

/-- The state as one capitalised word. -/
def word : Lifecycle → String
  | .unspecified => "Unspecified"
  | .online => "Online"
  | .offline => "Offline"

/-- The state in capitals. -/
def name : Lifecycle → String
  | .unspecified => "UNSPECIFIED"
  | .online => "ONLINE"
  | .offline => "OFFLINE"

/-- The state as the schema spells it. -/
def schemaName (s : Lifecycle) : String := "FUNCTION_REGISTRATION_STATE_" ++ s.name

theorem ofNumber_number (s : Lifecycle) : ofNumber s.number = s := by cases s <;> decide

end Lifecycle

namespace Payload

/-- The name of the kind of a payload. -/
def name : Payload → String
  | .call _ => "function_call"
  | .registration _ => "function_registration"
  | .token _ => "function_broker_token"
  | .reconnect _ => "function_broker_reconnect"

end Payload

end FunctionAgent
