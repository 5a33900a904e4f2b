import FunctionAgent.Decimal.Shortest
import FunctionAgent.Text.Numeral
import FunctionAgent.Text.Quoted
/-!
# Where and why a JSON text is refused

A reader works on what is left of a text and gives back what it leaves. A fault names its cause and
the place: what was left there, and how many bytes further the reader had looked. From these and the
whole text come the line and the column that are shown, both counted from the last line break.
-/

set_option autoImplicit false

namespace FunctionAgent.Json

open FunctionAgent.Decimal
open FunctionAgent.Text

/-- A number as JSON tells its kinds apart. -/
inductive Number where
  /-- A natural number of 64 bits. -/
  | natural (n : Nat)
  /-- The negative of a positive number. -/
  | negative (n : Nat)
  /-- Any other number, rounded. -/
  | real (isNegative : Bool) (size : Binary64)
  deriving DecidableEq, Repr

/-- A value that holds no others. -/
inductive Scalar where
  | null
  | bool (b : Bool)
  | number (n : Number)
  | text (s : List Char)
  deriving DecidableEq, Repr

/-- A value as far as it can be told from others at its start. -/
inductive Shape where
  | scalar (s : Scalar)
  | list
  | object
  deriving DecidableEq, Repr

/-- Why a text is refused. -/
inductive Complaint where
  | endInValue
  | endInText
  | endInList
  | endInObject
  | expectedValue
  | expectedWord
  | expectedColon
  | expectedListEnd
  | expectedObjectEnd
  | keyNotText
  | trailingComma
  | trailingCharacters
  | invalidEscape
  | controlCharacter
  | loneSurrogate
  | missingSurrogate
  | invalidNumber
  | numberOutOfRange
  | tooDeep
  | unexpected (found : Shape) (wanted : String)
  deriving DecidableEq, Repr

/-- How a value is named in a complaint. -/
def Shape.render : Shape → String
  | .scalar .null => "null"
  | .scalar (.bool b) => "boolean `" ++ (if b then "true" else "false") ++ "`"
  | .scalar (.number (.natural n)) => "integer `" ++ toString n ++ "`"
  | .scalar (.number (.negative n)) => "integer `-" ++ toString n ++ "`"
  | .scalar (.number (.real isNegative size)) =>
    "floating point `" ++ (if isNegative then "-" else "") ++ size.render ++ "`"
  | .scalar (.text s) => "string " ++ quoted (String.ofList s)
  | .list => "sequence"
  | .object => "map"

/-- The wording of a complaint. -/
def Complaint.message : Complaint → String
  | .endInValue => "EOF while parsing a value"
  | .endInText => "EOF while parsing a string"
  | .endInList => "EOF while parsing a list"
  | .endInObject => "EOF while parsing an object"
  | .expectedValue => "expected value"
  | .expectedWord => "expected ident"
  | .expectedColon => "expected `:`"
  | .expectedListEnd => "expected `,` or `]`"
  | .expectedObjectEnd => "expected `,` or `\x7d`"
  | .keyNotText => "key must be a string"
  | .trailingComma => "trailing comma"
  | .trailingCharacters => "trailing characters"
  | .invalidEscape => "invalid escape"
  | .controlCharacter => "control character (\\u0000-\\u001F) found while parsing a string"
  | .loneSurrogate => "lone leading surrogate in hex escape"
  | .missingSurrogate => "unexpected end of hex escape"
  | .invalidNumber => "invalid number"
  | .numberOutOfRange => "number out of range"
  | .tooDeep => "recursion limit exceeded"
  | .unexpected found wanted => "invalid type: " ++ found.render ++ ", expected " ++ wanted

/-- A cause with its place: what was left of the text, and the bytes of it that were looked at. -/
structure Fault (κ : Type) where
  what : κ
  rest : List Char
  ahead : Nat
  deriving DecidableEq, Repr

namespace Fault

variable {κ μ : Type}

/-- A fault behind the last character that was read. -/
def here (what : κ) (rest : List Char) : Fault κ := ⟨what, rest, 0⟩

/-- A fault in the next character, of which one byte was looked at. -/
def next (what : κ) (rest : List Char) : Fault κ := ⟨what, rest, 1⟩

/-- The fault with another cause at its place. -/
def map (f : κ → μ) (fault : Fault κ) : Fault μ := ⟨f fault.what, fault.rest, fault.ahead⟩

end Fault

/-- The number of bytes of some characters. -/
def byteSize (cs : List Char) : Nat := cs.foldl (fun size c => size + c.utf8Size) 0

/-- The line and the column of a byte offset; `pos` bytes have been passed, `line` is the line
reached, and `start` the offset of its first byte. -/
def placeFrom (offset : Nat) : List Char → (pos line start : Nat) → Nat × Nat
  | [], _, line, start => (line, offset - start)
  | c :: rest, pos, line, start =>
    if pos < offset then
      if c = '\n' then placeFrom offset rest (pos + 1) (line + 1) (pos + 1)
      else placeFrom offset rest (pos + c.utf8Size) line start
    else (line, offset - start)

/-- The line and the column of a fault in a whole text. -/
def Fault.place {κ : Type} (text : List Char) (fault : Fault κ) : Nat × Nat :=
  let size := byteSize text
  placeFrom (min size (size - byteSize fault.rest + fault.ahead)) text 0 1 0

/-- What a reader of a value gives: the value and what it left, or a fault. -/
abbrev Read (κ α : Type) := Except (Fault κ) (α × List Char)

end FunctionAgent.Json
