import FunctionAgent.Status
import FunctionAgent.Wire.Schema
/-!
# The bearer token

One slot holds the token that calls carry. Everyone who was given the slot writes to and reads from
the same one, so a refreshed token is used by all from then on. A call carries the token in a header
that replaces every other header of its name; a token that no header can hold fails the call and
leaves it as it was.
-/

set_option autoImplicit false

namespace FunctionAgent

/-- The headers of a call, in order. -/
abbrev Headers := List (String × List UInt8)

namespace Headers

/-- Every value of a header. -/
def values (h : Headers) (name : String) : List (List UInt8) :=
  (h.filter fun (n, _) => n == name).map Prod.snd

/-- Gives a header one value in the stead of all that it has. -/
def set (h : Headers) (name : String) (value : List UInt8) : Headers :=
  h.filter (fun (n, _) => n != name) ++ [(name, value)]

end Headers

/-- Whether a byte may stand in a header: no control except the tabulator. -/
def isHeaderByte (b : UInt8) : Bool := (decide (0x20 ≤ b) && b != 0x7f) || b == 0x09

/-- The bytes of a text as the value of a header, if it can be one. -/
def headerValue? (s : String) : Option (List UInt8) :=
  if (Wire.utf8 s).all isHeaderByte then some (Wire.utf8 s) else none

/-- The slot of a bearer token. -/
abbrev Bearer := Option String

namespace Bearer

/-- The header that carries the token. -/
def header : String := "authorization"

/-- What stands in front of the token. -/
def scheme : String := "Bearer "

/-- The fault of a token that no header can hold. -/
def invalid : Status := ⟨.internal, "invalid token format"⟩

/-- The value of the header, if there is a token. -/
def value (b : Bearer) : Except Status (Option (List UInt8)) :=
  match b with
  | none => .ok none
  | some token =>
    match headerValue? (scheme ++ token) with
    | some bytes => .ok (some bytes)
    | none => .error invalid

/-- Puts the token on a call; without a token the call stays as it is. -/
def apply (b : Bearer) (h : Headers) : Except Status Headers :=
  b.value.map fun
    | none => h
    | some bytes => h.set header bytes

/-- The slot as it is shown for inspection; the token is not. -/
def render (b : Bearer) : String :=
  "HeaderProvider \x7b token: " ++ (if b.isSome then "\"[REDACTED]\"" else "\"<none>\"") ++ " \x7d"

end Bearer

/-- A slot that several owners share. -/
structure SharedBearer where
  slot : Bearer
  owners : Nat
  deriving DecidableEq, Repr

namespace SharedBearer

/-- What an owner does with the slot. -/
inductive Act where
  /-- Shares it with one more owner. -/
  | share
  | write (token : String)
  | read
  /-- Puts the token on a call. -/
  | apply (headers : Headers)
  deriving DecidableEq, Repr

/-- What an owner gets to see. -/
inductive Seen where
  | owners (count : Nat)
  | written
  | token (slot : Bearer)
  | applied (result : Except Status Headers)

/-- The slot after an act of one of its owners, whichever it is. -/
def step (s : SharedBearer) (_owner : Nat) : Act → Seen × SharedBearer
  | .share => (.owners (s.owners + 1), { s with owners := s.owners + 1 })
  | .write token => (.written, { s with slot := some token })
  | .read => (.token s.slot, s)
  | .apply headers => (.applied (s.slot.apply headers), s)

end SharedBearer

end FunctionAgent
