/-!
# Hexadecimal text

Bytes and identifiers are written as pairs of hexadecimal digits, lower case and high half first;
both cases are read. The main statement is that reading what was written gives the bytes back.
-/

set_option autoImplicit false

namespace FunctionAgent.Text.Hex

/-- The sixteen digits in order of their values. -/
def digits : List Char :=
  ['0', '1', '2', '3', '4', '5', '6', '7', '8', '9', 'a', 'b', 'c', 'd', 'e', 'f']

/-- The lower-case digit of a value. -/
def digit (d : Fin 16) : Char := digits.get d

/-- The value of a digit of either case. -/
def digit? (c : Char) : Option (Fin 16) :=
  if '0' ≤ c ∧ c ≤ '9' then some (Fin.ofNat 16 (c.toNat - '0'.toNat))
  else if 'a' ≤ c ∧ c ≤ 'f' then some (Fin.ofNat 16 (c.toNat - 'a'.toNat + 10))
  else if 'A' ≤ c ∧ c ≤ 'F' then some (Fin.ofNat 16 (c.toNat - 'A'.toNat + 10))
  else none

theorem digit?_digit (d : Fin 16) : digit? (digit d) = some d := by
  revert d; decide

/-- The high and the low half of a byte. -/
def halves (b : UInt8) : Fin 16 × Fin 16 :=
  (Fin.ofNat 16 (b.toNat / 16), Fin.ofNat 16 (b.toNat % 16))

/-- The byte of two halves. -/
def ofHalves (hi lo : Fin 16) : UInt8 := UInt8.ofNat (16 * hi.val + lo.val)

theorem ofHalves_halves (b : UInt8) : ofHalves (halves b).1 (halves b).2 = b := by
  have hb := b.toNat_lt
  apply UInt8.toNat_inj.mp
  simp only [ofHalves, halves, Fin.ofNat, UInt8.toNat_ofNat']
  omega

/-- The digits of a byte string. -/
def encode (bytes : List UInt8) : List Char :=
  bytes.flatMap fun b => [digit (halves b).1, digit (halves b).2]

/-- Reads pairs of digits; an odd digit or another character is refused. -/
def decode? : List Char → Option (List UInt8)
  | [] => some []
  | hi :: lo :: rest =>
    match digit? hi, digit? lo, decode? rest with
    | some h, some l, some bytes => some (ofHalves h l :: bytes)
    | _, _, _ => none
  | [_] => none

theorem decode?_encode (bytes : List UInt8) : decode? (encode bytes) = some bytes := by
  induction bytes with
  | nil => rfl
  | cons b rest ih =>
    have : encode (b :: rest) = digit (halves b).1 :: digit (halves b).2 :: encode rest := rfl
    simp only [this, decode?, digit?_digit, ih, ofHalves_halves]

/-- The hexadecimal text of a byte string. -/
def render (bytes : List UInt8) : String := String.ofList (encode bytes)

/-- The byte string that a hexadecimal text spells. -/
def read? (s : String) : Option (List UInt8) := decode? s.toList

end FunctionAgent.Text.Hex
