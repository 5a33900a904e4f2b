/-!
# Decimal numerals

Numbers in settings and names are written as decimal digits, with an optional sign in front. Digits
are read from the left, and the first of them that is no digit, or that takes the value past the
limit, decides how the reading fails.
-/

set_option autoImplicit false

namespace FunctionAgent.Text

/-- Why a text is no numeral of the wanted range. -/
inductive NumeralFault where
  /-- There is nothing to read. -/
  | empty
  /-- A character is no digit. -/
  | invalidDigit
  /-- The value lies above the range. -/
  | tooLarge
  /-- The value lies below the range. -/
  | tooSmall
  deriving DecidableEq, Repr

namespace NumeralFault

/-- The wording used when a setting is refused. -/
def message : NumeralFault → String
  | .empty => "cannot parse integer from empty string"
  | .invalidDigit => "invalid digit found in string"
  | .tooLarge => "number too large to fit in target type"
  | .tooSmall => "number too small to fit in target type"

end NumeralFault

/-- The value of a decimal digit. -/
def digit? (c : Char) : Option Nat :=
  if '0' ≤ c ∧ c ≤ '9' then some (c.toNat - '0'.toNat) else none

/-- Reads digits behind a value read so far; `beyond` is the fault of passing the limit. -/
def magnitudeFrom (limit : Nat) (beyond : NumeralFault) (acc : Nat) :
    List Char → Except NumeralFault Nat
  | [] => .ok acc
  | c :: rest =>
    match digit? c with
    | none => .error .invalidDigit
    | some d =>
      if limit < 10 * acc + d then .error beyond
      else magnitudeFrom limit beyond (10 * acc + d) rest

/-- Reads one or more digits as a value of at most `limit`. -/
def magnitude (limit : Nat) (beyond : NumeralFault) : List Char → Except NumeralFault Nat
  | [] => .error .invalidDigit
  | cs => magnitudeFrom limit beyond 0 cs

/-- Reads a natural number of at most `limit`; a plus sign may stand in front. -/
def natural (limit : Nat) (s : String) : Except NumeralFault Nat :=
  match s.toList with
  | [] => .error .empty
  | '+' :: rest => magnitude limit .tooLarge rest
  | cs => magnitude limit .tooLarge cs

/-- Reads an integer from `-(limit + 1)` to `limit`; a sign may stand in front. -/
def integer (limit : Nat) (s : String) : Except NumeralFault Int :=
  match s.toList with
  | [] => .error .empty
  | '+' :: rest => (magnitude limit .tooLarge rest).map Int.ofNat
  | '-' :: rest => (magnitude (limit + 1) .tooSmall rest).map fun n => -Int.ofNat n
  | cs => (magnitude limit .tooLarge cs).map Int.ofNat

/-- The largest number of 64 bits. -/
def word64Max : Nat := 18_446_744_073_709_551_615

/-- The largest number of 32 bits. -/
def word32Max : Nat := 4_294_967_295

end FunctionAgent.Text
