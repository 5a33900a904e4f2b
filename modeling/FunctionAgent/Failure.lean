import FunctionAgent.Span
import FunctionAgent.Status
/-!
# Failures

Failures come in layers. A transport failure is what a channel or a stream to the broker reports. A
session failure ends a session or the agent; only the two that mean "the stream is gone" are
recoverable. A start failure says why an executor did not start a function, and a call failure why a
call could not be honoured; neither ever ends a session.
-/

set_option autoImplicit false

namespace FunctionAgent

open FunctionAgent.Text

/-- What goes wrong between the agent and the broker. -/
inductive TransportFailure where
  | invalidAddress (text : String)
  | connectionFailed (text : String)
  | authenticationFailed (text : String)
  | streamEnded (text : String)
  | rpc (text : String)
  deriving DecidableEq, Repr

namespace TransportFailure

/-- The text of a failure. -/
def message : TransportFailure → String
  | .invalidAddress text => "invalid server address: " ++ text
  | .connectionFailed text => "connection failed: " ++ text
  | .authenticationFailed text => "authentication failed: " ++ text
  | .streamEnded text => "stream ended: " ++ text
  | .rpc text => "rpc failed: " ++ text

/-- Whether the stream is gone. -/
def isStreamEnded : TransportFailure → Bool
  | .streamEnded _ => true
  | _ => false

/-- The failure that a status means: credentials were refused, the broker was not there, or the
call itself failed. -/
def ofStatus (s : Status) : TransportFailure :=
  match s.code with
  | .unauthenticated | .permissionDenied => .authenticationFailed s.message
  | .unavailable => .connectionFailed s.message
  | _ => .rpc s.render

end TransportFailure

/-- What ends a session or stops the agent. -/
inductive SessionFailure where
  | brokerAuthentication (text : String)
  | streamEnded (text : String)
  | reconnectRequested (seconds : Int32)
  | connection (text : String)
  | catalog (text : String)
  | config (text : String)
  deriving DecidableEq, Repr

namespace SessionFailure

/-- The text of a failure. -/
def message : SessionFailure → String
  | .brokerAuthentication text => "broker authentication failed: " ++ text
  | .streamEnded text => "broker stream ended: " ++ text
  | .reconnectRequested seconds =>
    "broker requested a reconnect (" ++ toString seconds.toInt ++ "s until disconnect)"
  | .connection text => "connection failed: " ++ text
  | .catalog text => "catalog error: " ++ text
  | .config text => "config error: " ++ text

/-- Whether the dispatch loop answers this failure by reconnecting. -/
def isRecoverable : SessionFailure → Bool
  | .streamEnded _ | .reconnectRequested _ => true
  | _ => false

/-- A transport failure as seen by a session. -/
def ofTransport : TransportFailure → SessionFailure
  | .authenticationFailed text => .brokerAuthentication text
  | .streamEnded text => .streamEnded text
  | .invalidAddress text => .config text
  | .connectionFailed text | .rpc text => .connection text

end SessionFailure

/-- Why an executor did not start a function. -/
inductive StartFailure where
  /-- The request got no answer. -/
  | request (text : String)
  /-- The answer was no success. -/
  | rejected (status : Nat) (body : String)
  /-- No answer came within the limit. -/
  | timedOut (limit : Span)
  deriving DecidableEq

namespace StartFailure

/-- The text of a failure. -/
def message : StartFailure → String
  | .request text => "executor request failed: " ++ text
  | .rejected status body =>
    "executor rejected the start (" ++ toString status ++ "): " ++ body
  | .timedOut limit => "executor did not answer within " ++ limit.render

end StartFailure

/-- Why a call was not honoured. -/
inductive CallFailure where
  /-- No function on offer has this identifier. -/
  | unknownFunction (id : String)
  /-- The executor did not start the function. -/
  | notStarted (id : String) (cause : StartFailure)
  deriving DecidableEq

namespace CallFailure

/-- The text of a failure. -/
def message : CallFailure → String
  | .unknownFunction id => "function " ++ id ++ " is not offered by this launcher"
  | .notStarted id cause => "function " ++ id ++ " could not be started: " ++ cause.message

/-- The failure behind this one. -/
def cause? : CallFailure → Option StartFailure
  | .unknownFunction _ => none
  | .notStarted _ cause => some cause

end CallFailure

end FunctionAgent
