import FunctionAgent.Catalog.Function
import FunctionAgent.Failure
/-!
# Messages to the broker

The agent says three things to the broker: a function is in some state, a call went well or not, a
fresh token was taken over. Each message makes one update, and the update tells the messages apart.
-/

set_option autoImplicit false

namespace FunctionAgent

/-- How the handling of a call went. -/
inductive Outcome where
  | success
  | failed
  deriving DecidableEq, Repr

namespace Outcome

/-- The verdict on the wire. -/
def verdict : Outcome → Verdict
  | .success => .success
  | .failed => .failed

/-- The outcome as one capitalised word. -/
def word : Outcome → String
  | .success => "Success"
  | .failed => "Failed"

end Outcome

/-- A message of the agent. -/
inductive Message where
  /-- Announces a function with its state. -/
  | registration (record : Registration)
  /-- Answers a call, which is echoed. -/
  | answer (call : Call) (outcome : Outcome) (description : String)
  /-- Acknowledges a fresh token; this keeps an idle stream alive as well. -/
  | tokenTaken (token : Token)
  deriving DecidableEq, Repr

namespace Message

/-- What every acknowledgement of a token says. -/
def tokenTakenDescription : String := "token updated"

/-- Announces a function in a state. -/
def announce (f : Function) (state : Lifecycle) : Message := .registration (f.registrationAs state)

/-- Answers a call whose function was started. -/
def started (call : Call) : Message :=
  .answer call .success ("Function " ++ call.id ++ " has been started successfully")

/-- Answers a call whose function was not started, with the reason. -/
def refused (call : Call) (reason : String) : Message :=
  .answer call .failed ("Function " ++ call.id ++ " could not be started: " ++ reason)

/-- The envelope that carries a message. -/
def toUpdate : Message → Update
  | .registration record =>
    ⟨UpdateKind.request.number, Verdict.unspecified.number, "", some (.registration record)⟩
  | .answer call outcome description =>
    ⟨UpdateKind.response.number, outcome.verdict.number, description, some (.call call)⟩
  | .tokenTaken token =>
    ⟨UpdateKind.response.number, Verdict.success.number, tokenTakenDescription,
      some (.token token)⟩

/-- How a message is shown in a log; tokens and session information never are. -/
def render : Message → String
  | .registration record =>
    "registration of " ++ record.name ++ " (" ++ record.id ++ ") as "
      ++ (Lifecycle.ofNumber record.state).word
  | .answer _ outcome description => "call response " ++ outcome.word ++ ": " ++ description
  | .tokenTaken _ => "token acknowledgement"

end Message

end FunctionAgent
