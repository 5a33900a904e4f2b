/-!
# Unreadable messages

Bytes that are no encoded message are refused with the reason and, if the trouble lies in a known
field, with that field and the fields around it, the innermost first.
-/

set_option autoImplicit false

namespace FunctionAgent.Wire

/-- How the bytes of a field are delimited. -/
inductive WireType where
  | varint
  | sixtyFourBit
  | lengthDelimited
  | startGroup
  | endGroup
  | thirtyTwoBit
  deriving DecidableEq, Repr

namespace WireType

/-- The number of a wire type in a key. -/
def number : WireType → Nat
  | .varint => 0
  | .sixtyFourBit => 1
  | .lengthDelimited => 2
  | .startGroup => 3
  | .endGroup => 4
  | .thirtyTwoBit => 5

/-- The wire type of a number; 6 and 7 mean none. -/
def ofNumber? : Nat → Option WireType
  | 0 => some .varint
  | 1 => some .sixtyFourBit
  | 2 => some .lengthDelimited
  | 3 => some .startGroup
  | 4 => some .endGroup
  | 5 => some .thirtyTwoBit
  | _ => none

/-- The wire type as one capitalised word. -/
def word : WireType → String
  | .varint => "Varint"
  | .sixtyFourBit => "SixtyFourBit"
  | .lengthDelimited => "LengthDelimited"
  | .startGroup => "StartGroup"
  | .endGroup => "EndGroup"
  | .thirtyTwoBit => "ThirtyTwoBit"

theorem ofNumber?_number (t : WireType) : ofNumber? t.number = some t := by cases t <;> rfl

end WireType

/-- Why bytes are no encoded message. -/
inductive Reason where
  /-- A number ends early, is too long or too large. -/
  | varint
  /-- A length reaches beyond the input. -/
  | underflow
  /-- A field of a nested message runs past the end of that message. -/
  | lengthExceeded
  /-- A key does not fit in 32 bits. -/
  | key (n : Nat)
  /-- A key names no wire type. -/
  | wireType (n : Nat)
  /-- A key names field zero. -/
  | tagZero
  /-- A known field has another wire type than its kind. -/
  | expected (found wanted : WireType)
  /-- A group ends that was not begun. -/
  | endGroup
  /-- Groups are nested too deeply. -/
  | recursion
  /-- A text is not UTF-8. -/
  | utf8
  deriving DecidableEq, Repr

/-- The wording of a reason. -/
def Reason.message : Reason → String
  | .varint => "invalid varint"
  | .underflow => "buffer underflow"
  | .lengthExceeded => "delimited length exceeded"
  | .key n => "invalid key value: " ++ toString n
  | .wireType n => "invalid wire type value: " ++ toString n
  | .tagZero => "invalid tag value: 0"
  | .expected found wanted =>
    "invalid wire type: " ++ found.word ++ " (expected " ++ wanted.word ++ ")"
  | .endGroup => "unexpected end group tag"
  | .recursion => "recursion limit reached"
  | .utf8 => "invalid string value: data is not UTF-8 encoded"

/-- A refusal: the reason, and the known fields around it as pairs of message and field. -/
structure Fault where
  path : List (String × String)
  reason : Reason
  deriving DecidableEq, Repr

namespace Fault

/-- A fault outside of every known field. -/
def bare (reason : Reason) : Fault := ⟨[], reason⟩

/-- The same fault, seen from the message around its field. -/
def inside (message field : String) (f : Fault) : Fault := ⟨f.path ++ [(message, field)], f.reason⟩

/-- The text of a refusal. -/
def message (f : Fault) : String :=
  "failed to decode Protobuf message: "
    ++ String.join (f.path.map fun (message, field) => message ++ "." ++ field ++ ": ")
    ++ f.reason.message

end Fault

end FunctionAgent.Wire
