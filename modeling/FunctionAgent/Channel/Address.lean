import FunctionAgent.Wire.Schema
/-!
# Addresses

The address of a broker is a URI. Without a scheme it is an authority alone. Behind a scheme an
authority has to follow, and then an optional path, query and fragment, of which the fragment is not
looked at. Letters beyond ASCII may stand in a path or a query but not in an authority. A single
slash or asterisk, and a bare path, are accepted too.
-/

set_option autoImplicit false

namespace FunctionAgent.Address

/-- The bytes of some ASCII text. -/
def ascii (s : String) : List UInt8 := Wire.utf8 s

/-- A letter or a digit. -/
def isAlphanumeric (b : UInt8) : Bool :=
  (decide (0x30 ≤ b) && decide (b ≤ 0x39)) || (decide (0x41 ≤ b) && decide (b ≤ 0x5a))
    || (decide (0x61 ≤ b) && decide (b ≤ 0x7a))

/-- A byte of a scheme. -/
def isSchemeByte (b : UInt8) : Bool := isAlphanumeric b || (ascii "+-.~").contains b

/-- A byte that may stand in an authority, apart from the percent sign. -/
def isAuthorityByte (b : UInt8) : Bool :=
  isAlphanumeric b || (ascii "!$&'()*+,-.:;=@[]_~").contains b

/-- A byte at which an authority ends. -/
def isDelimiter (b : UInt8) : Bool := (ascii "/?#").contains b

/-- A byte of a path. -/
def isPathByte (b : UInt8) : Bool :=
  decide (0x7f ≤ b) || (decide (0x21 ≤ b) && !(ascii "#<>?\x60").contains b)

/-- A byte of a query. -/
def isQueryByte (b : UInt8) : Bool :=
  decide (0x7f ≤ b) || (decide (0x21 ≤ b) && !(ascii "\"#<>").contains b)

/-- The longest address. -/
def maxLength : Nat := 65_534

/-- The longest scheme. -/
def maxScheme : Nat := 64

/-- What has been seen of an authority. -/
structure Authority where
  /-- Colons since the last `@` or closing bracket. -/
  colons : Nat
  opened : Bool
  closed : Bool
  /-- Whether a percent sign stands behind the last `@` or closing bracket. -/
  percent : Bool
  /-- Whether the last byte is an `@`. -/
  atEnd : Bool
  deriving DecidableEq, Repr

/-- Nothing has been seen. -/
def Authority.empty : Authority := ⟨0, false, false, false, false⟩

/-- The most colons that may stand between brackets. -/
def maxColons : Nat := 8

/-- Takes one byte into an authority, if it may stand there. -/
def Authority.take? (a : Authority) (b : UInt8) : Option Authority :=
  if b = 0x3a then
    if maxColons ≤ a.colons then none else some { a with colons := a.colons + 1, atEnd := false }
  else if b = 0x5b then
    if a.percent || a.opened then none else some { a with opened := true, atEnd := false }
  else if b = 0x5d then
    if !a.opened || a.closed then none
    else some { a with closed := true, colons := 0, percent := false, atEnd := false }
  else if b = 0x40 then some { a with colons := 0, percent := false, atEnd := true }
  else if b = 0x25 then some { a with percent := true, atEnd := false }
  else if isAuthorityByte b then some { a with atEnd := false }
  else none

/-- Whether an authority may end here. -/
def Authority.isWhole (a : Authority) : Bool :=
  a.opened == a.closed && decide (a.colons ≤ 1) && !a.atEnd && !a.percent

/-- What is left behind an authority, if it is one. -/
def Authority.rest? (a : Authority) : List UInt8 → Option (List UInt8)
  | [] => if a.isWhole then some [] else none
  | b :: rest =>
    if isDelimiter b then if a.isWhole then some (b :: rest) else none
    else (a.take? b).bind fun a => a.rest? rest

/-- Whether some bytes are a query, up to a fragment. -/
def isQuery : List UInt8 → Bool
  | [] => true
  | b :: rest => if b = 0x23 then true else isQueryByte b && isQuery rest

/-- Whether some bytes are a path with an optional query, up to a fragment. -/
def isPath : List UInt8 → Bool
  | [] => true
  | b :: rest =>
    if b = 0x3f then isQuery rest else if b = 0x23 then true else isPathByte b && isPath rest

/-- What stands between a scheme and the authority. -/
def separator : List UInt8 := ascii "://"

/-- The length of a scheme, if the address starts with one. -/
def scheme? (bytes : List UInt8) : Option Nat :=
  let scheme := bytes.takeWhile isSchemeByte
  if bytes.length > 3 ∧ (bytes.drop scheme.length).take 3 = separator then some scheme.length
  else none

/-- Whether some bytes are an address. -/
def isValidBytes (bytes : List UInt8) : Bool :=
  if bytes.isEmpty || decide (maxLength < bytes.length) then false
  else if bytes = ascii "/" || bytes = ascii "*" then true
  else if bytes.head? = some 0x2f then isPath bytes
  else
    match scheme? bytes with
    | some n =>
      let behind := bytes.drop (n + separator.length)
      match Authority.empty.rest? behind with
      | some rest => decide (n ≤ maxScheme) && decide (rest.length < behind.length) && isPath rest
      | none => false
    | none => Authority.empty.rest? bytes == some []

/-- Whether a text is an address. -/
def isValid (s : String) : Bool := isValidBytes (Wire.utf8 s)

/-- The wording used for every other text. -/
def invalidMessage : String := "invalid URI"

end FunctionAgent.Address
