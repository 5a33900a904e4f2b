import FunctionAgent.Text.Quoted
/-!
# Call statuses

A remote call that goes wrong ends in a status: one of seventeen codes and a message. A number that
is no code counts as `unknown`.
-/

set_option autoImplicit false

namespace FunctionAgent

open FunctionAgent.Text

/-- The outcome of a remote call. -/
inductive Code where
  | ok
  | cancelled
  | unknown
  | invalidArgument
  | deadlineExceeded
  | notFound
  | alreadyExists
  | permissionDenied
  | resourceExhausted
  | failedPrecondition
  | aborted
  | outOfRange
  | unimplemented
  | internal
  | unavailable
  | dataLoss
  | unauthenticated
  deriving DecidableEq, Repr

namespace Code

/-- Every code in the order of the numbers. -/
def all : List Code :=
  [.ok, .cancelled, .unknown, .invalidArgument, .deadlineExceeded, .notFound, .alreadyExists,
    .permissionDenied, .resourceExhausted, .failedPrecondition, .aborted, .outOfRange,
    .unimplemented, .internal, .unavailable, .dataLoss, .unauthenticated]

/-- The code of a number. -/
def ofNumber (n : Int) : Code := if n < 0 then .unknown else all.getD n.toNat .unknown

/-- The name of a code. -/
def name : Code → String
  | .ok => "Ok"
  | .cancelled => "Cancelled"
  | .unknown => "Unknown"
  | .invalidArgument => "InvalidArgument"
  | .deadlineExceeded => "DeadlineExceeded"
  | .notFound => "NotFound"
  | .alreadyExists => "AlreadyExists"
  | .permissionDenied => "PermissionDenied"
  | .resourceExhausted => "ResourceExhausted"
  | .failedPrecondition => "FailedPrecondition"
  | .aborted => "Aborted"
  | .outOfRange => "OutOfRange"
  | .unimplemented => "Unimplemented"
  | .internal => "Internal"
  | .unavailable => "Unavailable"
  | .dataLoss => "DataLoss"
  | .unauthenticated => "Unauthenticated"

end Code

/-- How a remote call ended. -/
structure Status where
  code : Code
  message : String
  deriving DecidableEq, Repr

/-- The text of a status without details or metadata. -/
def Status.render (s : Status) : String :=
  "status: " ++ s.code.name ++ ", message: " ++ quoted s.message
    ++ ", details: [], metadata: MetadataMap \x7b headers: \x7b\x7d \x7d"

end FunctionAgent
