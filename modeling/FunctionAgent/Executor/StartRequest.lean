import FunctionAgent.Broker.Bearer
import FunctionAgent.Catalog.Function
import FunctionAgent.Failure
import FunctionAgent.Text.Base64
/-!
# Start requests

A function is started by one request to the executor backend. Its address names the kind of executor
and the function, a header names the runtime, and the body carries the session information, which is
not looked into. Any answer of success means that the function was started; the result of the
function itself is not awaited.
-/

set_option autoImplicit false

namespace FunctionAgent

open FunctionAgent.Text

/-- A request to the executor backend. -/
structure StartRequest where
  method : String
  address : String
  headers : Headers
  body : String
  deriving DecidableEq, Repr

/-- What the backend does with a request. -/
inductive StartAnswer where
  /-- It answers with a status, and with a body unless this breaks off. -/
  | answered (status : Nat) (body : Option String)
  /-- The request arrives, but no answer comes, for some reason. -/
  | lost (reason : String)
  /-- The request cannot be sent to its address or does not arrive there, for some reason. -/
  | unreached (reason : String)
  deriving DecidableEq, Repr

namespace StartAnswer

/-- Whether the backend got to see the request. -/
def hasArrived : StartAnswer → Bool
  | .answered _ _ | .lost _ => true
  | .unreached _ => false

end StartAnswer

namespace StartRequest

/-- The header that names the runtime. -/
def runtimeHeader : String := "RuntimeId"

/-- The header that names the kind of the body, and its value for JSON. -/
def contentHeader : String × List UInt8 := ("Content-Type", Wire.utf8 "application/json")

/-- The value of the header that names the runtime. -/
def runtime (r : StartRequest) : List UInt8 := (r.headers.values runtimeHeader).headD []

/-- A host without the slashes at its end. -/
def bareHost (host : String) : List Char := (host.toList.reverse.dropWhile (· == '/')).reverse

/-- The address at which a function is started. -/
def addressOf (host : String) (f : Function) : String :=
  String.ofList (bareHost host) ++ "/" ++ f.description.executor ++ "/function/" ++ f.id.render

/-- The body of a request: the function and the session information in Base64. -/
def bodyOf (f : Function) (sessionInfo : List UInt8) : String :=
  "\x7b\"uuid\":\"" ++ f.id.render ++ "\",\"session_info\":\"" ++ Base64.render sessionInfo
    ++ "\"\x7d"

/-- The reason why a request with a broken part is not sent. -/
def builderFault : String := "builder error"

/-- The request that starts a function; a runtime that no header can hold makes none. -/
def of (host : String) (f : Function) (sessionInfo : List UInt8) :
    Except StartFailure StartRequest :=
  match headerValue? f.description.runtime with
  | some runtime =>
    .ok ⟨"POST", addressOf host f, [(runtimeHeader, runtime), contentHeader], bodyOf f sessionInfo⟩
  | none => .error (.request builderFault)

/-- Whether a status means success. -/
def isSuccess (status : Nat) : Bool := decide (200 ≤ status) && decide (status < 300)

/-- What an answer means. -/
def outcome : StartAnswer → Except StartFailure Unit
  | .answered status body =>
    if isSuccess status then .ok () else .error (.rejected status (body.getD ""))
  | .lost reason | .unreached reason => .error (.request reason)

end StartRequest

/-- A backend: what it does with each request. -/
abbrev Backend := StartRequest → StartAnswer

/-- Starts a function: the request that arrived, if any, and the outcome. -/
def Backend.start (backend : Backend) (host : String) (f : Function) (sessionInfo : List UInt8) :
    Option StartRequest × Except StartFailure Unit :=
  match StartRequest.of host f sessionInfo with
  | .error failure => (none, .error failure)
  | .ok request =>
    (if (backend request).hasArrived then some request else none,
      StartRequest.outcome (backend request))

end FunctionAgent
