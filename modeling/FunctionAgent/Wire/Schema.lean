import FunctionAgent.Wire.Varint
import FunctionAgent.Wire.Fault
/-!
# Encoding by schema

A message is encoded as its fields in the order of their numbers. A field is a key, which joins the
number and the wire type, followed by its value; a field with the zero value of its kind is left
out. Reading starts from a message of zero values and merges field after field into it, so that the
last of several values counts; fields that are not known are skipped.
-/

set_option autoImplicit false

namespace FunctionAgent.Wire

/-- The number that stands for a signed number of 32 bits: negative ones wrap at 64 bits. -/
def wordOf (n : Int32) : Nat := (n.toInt % 18_446_744_073_709_551_616).toNat

/-- The signed number in the low 32 bits. -/
def ofWord (n : Nat) : Int32 := Int32.ofNat n

theorem wordOf_lt (n : Int32) : wordOf n < 18_446_744_073_709_551_616 := by
  simp only [wordOf]
  omega

/-- The key of a field. -/
def encodeKey (number : Nat) (kind : WireType) : Bytes :=
  Varint.encode (8 * number + kind.number)

/-- Bytes behind their length. -/
def encodeDelimited (bytes : Bytes) : Bytes := Varint.encode bytes.length ++ bytes

/-- The bytes of a text. -/
def utf8 (s : String) : Bytes := s.toUTF8.data.toList

/-- The text that some bytes spell. -/
def ofUtf8? (bytes : Bytes) : Option String := String.fromUTF8? bytes.toByteArray

/-- Reads a number. -/
def readVarint (bytes : Bytes) : Except Reason (Nat × Bytes) :=
  match Varint.decode bytes with
  | some r => .ok r
  | none => .error .varint

/-- Reads a key: the number of a field and its wire type. -/
def readKey (bytes : Bytes) : Except Reason (Nat × WireType × Bytes) :=
  match readVarint bytes with
  | .error e => .error e
  | .ok (key, rest) =>
    if 4_294_967_296 ≤ key then .error (.key key)
    else
      match WireType.ofNumber? (key % 8) with
      | none => .error (.wireType (key % 8))
      | some kind => if key / 8 = 0 then .error .tagZero else .ok (key / 8, kind, rest)

/-- Takes a number of bytes. -/
def takeBytes (n : Nat) (bytes : Bytes) : Except Reason (Bytes × Bytes) :=
  if bytes.length < n then .error .underflow else .ok (bytes.take n, bytes.drop n)

/-- Reads bytes behind their length. -/
def readDelimited (bytes : Bytes) : Except Reason (Bytes × Bytes) :=
  match readVarint bytes with
  | .error e => .error e
  | .ok (n, rest) => takeBytes n rest

/-- Refuses a field of another wire type than its kind. -/
def expect (wanted found : WireType) : Except Reason Unit :=
  if found = wanted then .ok () else .error (.expected found wanted)

/-- Skips the fields of a group up to its end, each by `skipField`. -/
def skipGroup (skipField : WireType → Nat → Bytes → Except Reason Bytes) (tag : Nat) :
    (fuel : Nat) → Bytes → Except Reason Bytes
  | 0, _ => .error .varint
  | fuel + 1, bytes =>
    match readKey bytes with
    | .error e => .error e
    | .ok (inner, .endGroup, rest) => if inner = tag then .ok rest else .error .endGroup
    | .ok (inner, kind, rest) =>
      match skipField kind inner rest with
      | .error e => .error e
      | .ok rest => skipGroup skipField tag fuel rest

/-- Skips the value of an unknown field; groups may be nested `depth` deep. -/
def skipField : (depth : Nat) → WireType → (tag : Nat) → Bytes → Except Reason Bytes
  | 0, _, _, _ => .error .recursion
  | _ + 1, .varint, _, bytes => (readVarint bytes).map (·.2)
  | _ + 1, .thirtyTwoBit, _, bytes => (takeBytes 4 bytes).map (·.2)
  | _ + 1, .sixtyFourBit, _, bytes => (takeBytes 8 bytes).map (·.2)
  | _ + 1, .lengthDelimited, _, bytes => (readDelimited bytes).map (·.2)
  | depth + 1, .startGroup, tag, bytes =>
    skipGroup (skipField depth) tag (bytes.length + 1) bytes
  | _ + 1, .endGroup, _, _ => .error .endGroup

/-- How deeply messages and groups may be nested. -/
def depthLimit : Nat := 100

/-- Merges fields by `step` while more than `limit` bytes are left; a field must not run past that
point. -/
def mergeUntil {M : Type} (step : M → Bytes → Except Fault (M × Bytes)) (limit : Nat) :
    (fuel : Nat) → M → Bytes → Except Fault (M × Bytes)
  | 0, m, bytes => if bytes.length = limit then .ok (m, bytes) else .error (.bare .lengthExceeded)
  | fuel + 1, m, bytes =>
    if limit < bytes.length then
      match step m bytes with
      | .error e => .error e
      | .ok (m, rest) => mergeUntil step limit fuel m rest
    else if bytes.length = limit then .ok (m, bytes)
    else .error (.bare .lengthExceeded)

/-- The kind of a simple field, with its place in the message. -/
inductive Slot (M : Type) where
  | text (get : M → String) (set : String → M → M)
  | blob (get : M → Bytes) (set : Bytes → M → M)
  | number (get : M → Int32) (set : Int32 → M → M)

/-- A simple field of a message. -/
structure Field (M : Type) where
  number : Nat
  label : String
  slot : Slot M

/-- A message of simple fields, listed in the order of their numbers. -/
structure Schema (M : Type) where
  name : String
  blank : M
  fields : List (Field M)

namespace Field

variable {M : Type}

/-- The encoded field, or nothing for a zero value. -/
def encode (f : Field M) (m : M) : Bytes :=
  match f.slot with
  | .text get _ =>
    if get m = "" then []
    else encodeKey f.number .lengthDelimited ++ encodeDelimited (utf8 (get m))
  | .blob get _ =>
    if get m = [] then [] else encodeKey f.number .lengthDelimited ++ encodeDelimited (get m)
  | .number get _ =>
    if get m = 0 then [] else encodeKey f.number .varint ++ Varint.encode (wordOf (get m))

/-- Reads the value of the field into the message. -/
def merge (f : Field M) (kind : WireType) (m : M) (bytes : Bytes) :
    Except Reason (M × Bytes) :=
  match f.slot with
  | .text _ set => do
    expect .lengthDelimited kind
    let (value, rest) ← readDelimited bytes
    match ofUtf8? value with
    | some s => .ok (set s m, rest)
    | none => .error .utf8
  | .blob _ set => do
    expect .lengthDelimited kind
    let (value, rest) ← readDelimited bytes
    .ok (set value m, rest)
  | .number _ set => do
    expect .varint kind
    let (value, rest) ← readVarint bytes
    .ok (set (ofWord value) m, rest)

end Field

namespace Schema

variable {M : Type}

/-- The encoded message. -/
def encode (s : Schema M) (m : M) : Bytes := s.fields.flatMap (·.encode m)

/-- The field with a number. -/
def field? (s : Schema M) (number : Nat) : Option (Field M) :=
  s.fields.find? fun f => f.number == number

/-- Reads one field, known or not, whose key was read already. -/
def mergeValue (s : Schema M) (depth : Nat) (number : Nat) (kind : WireType) (m : M)
    (bytes : Bytes) : Except Fault (M × Bytes) :=
  match s.field? number with
  | some f =>
    match f.merge kind m bytes with
    | .ok r => .ok r
    | .error e => .error (Fault.inside s.name f.label (.bare e))
  | none =>
    match skipField depth kind number bytes with
    | .ok rest => .ok (m, rest)
    | .error e => .error (.bare e)

/-- Reads one field with its key. -/
def mergeField (s : Schema M) (depth : Nat) (m : M) (bytes : Bytes) : Except Fault (M × Bytes) :=
  match readKey bytes with
  | .error e => .error (.bare e)
  | .ok (number, kind, rest) => s.mergeValue depth number kind m rest

/-- Merges a message that stands behind its length into one that was read before. -/
def mergeNested (s : Schema M) (depth : Nat) (kind : WireType) (m : M) (bytes : Bytes) :
    Except Fault (M × Bytes) :=
  match expect .lengthDelimited kind, readVarint bytes with
  | .error e, _ => .error (.bare e)
  | .ok (), .error e => .error (.bare e)
  | .ok (), .ok (n, rest) =>
    if rest.length < n then .error (.bare .underflow)
    else mergeUntil (s.mergeField depth) (rest.length - n) rest.length m rest

/-- Reads a whole input as one message. -/
def decode (s : Schema M) (bytes : Bytes) : Except Fault M :=
  (mergeUntil (s.mergeField depthLimit) 0 bytes.length s.blank bytes).map (·.1)

end Schema

end FunctionAgent.Wire
