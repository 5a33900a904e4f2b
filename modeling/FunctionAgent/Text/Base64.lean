/-!
# Base64

Bytes that travel inside a text are written in base 64 with the standard alphabet: three bytes make
four digits, and the last group is filled up with `=`. The main statement is that reading the
written form gives the bytes back, so different bytes have different texts.
-/

set_option autoImplicit false

namespace FunctionAgent.Text.Base64

/-- The digit of a value below 64. -/
def digit (n : Nat) : Char :=
  if n < 26 then Char.ofNat (n + 65)
  else if n < 52 then Char.ofNat (n - 26 + 97)
  else if n < 62 then Char.ofNat (n - 52 + 48)
  else if n = 62 then '+'
  else '/'

/-- The value of a digit. -/
def digit? (c : Char) : Option Nat :=
  if 'A' ≤ c ∧ c ≤ 'Z' then some (c.toNat - 65)
  else if 'a' ≤ c ∧ c ≤ 'z' then some (c.toNat - 97 + 26)
  else if '0' ≤ c ∧ c ≤ '9' then some (c.toNat - 48 + 52)
  else if c = '+' then some 62
  else if c = '/' then some 63
  else none

/-- Writes groups of three bytes as four digits each. -/
def encode : List UInt8 → List Char
  | [] => []
  | [a] => [digit (a.toNat / 4), digit (a.toNat % 4 * 16), '=', '=']
  | [a, b] =>
    [digit (a.toNat / 4), digit (a.toNat % 4 * 16 + b.toNat / 16), digit (b.toNat % 16 * 4), '=']
  | a :: b :: c :: rest =>
    digit (a.toNat / 4) :: digit (a.toNat % 4 * 16 + b.toNat / 16)
      :: digit (b.toNat % 16 * 4 + c.toNat / 64) :: digit (c.toNat % 64) :: encode rest

/-- Reads padded groups; bits that the padding leaves over must be zero. -/
def decode? : List Char → Option (List UInt8)
  | [] => some []
  | p :: q :: '=' :: '=' :: [] =>
    match digit? p, digit? q with
    | some x, some y => if y % 16 = 0 then some [UInt8.ofNat (x * 4 + y / 16)] else none
    | _, _ => none
  | p :: q :: r :: '=' :: [] =>
    match digit? p, digit? q, digit? r with
    | some x, some y, some z =>
      if z % 4 = 0 then
        some [UInt8.ofNat (x * 4 + y / 16), UInt8.ofNat (y % 16 * 16 + z / 4)]
      else none
    | _, _, _ => none
  | p :: q :: r :: s :: rest =>
    match digit? p, digit? q, digit? r, digit? s, decode? rest with
    | some x, some y, some z, some w, some bytes =>
      some (UInt8.ofNat (x * 4 + y / 16) :: UInt8.ofNat (y % 16 * 16 + z / 4)
        :: UInt8.ofNat (z % 4 * 64 + w) :: bytes)
    | _, _, _, _, _ => none
  | _ => none

/-- The base 64 text of a byte string. -/
def render (bytes : List UInt8) : String := String.ofList (encode bytes)

/-- The byte string that a base 64 text spells. -/
def read? (s : String) : Option (List UInt8) := decode? s.toList

end FunctionAgent.Text.Base64
