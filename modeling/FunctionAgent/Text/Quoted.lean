import FunctionAgent.Text.Visible
/-!
# Quoted texts

A text inside a message for a reader stands between double quotes. Inside them the quote, the
backslash and the common controls have short escapes, every other character that is not visible on
its own is written by its code point, and the rest stands for itself.
-/

set_option autoImplicit false

namespace FunctionAgent.Text

/-- The lower-case hexadecimal digits of a number, without leading zeros. -/
def hexDigits (n : Nat) : List Char := Nat.toDigits 16 n

/-- How one character is written between quotes. -/
def escape (c : Char) : List Char :=
  if c = '"' then ['\\', '"']
  else if c = '\\' then ['\\', '\\']
  else if c = '\n' then ['\\', 'n']
  else if c = '\r' then ['\\', 'r']
  else if c = '\t' then ['\\', 't']
  else if c = Char.ofNat 0 then ['\\', '0']
  else if isVisible c then [c]
  else ['\\', 'u', '\x7b'] ++ hexDigits c.toNat ++ ['\x7d']

/-- A text between double quotes. -/
def quoted (s : String) : String :=
  String.ofList ('"' :: s.toList.flatMap escape ++ ['"'])

/-- How an optional value is shown: its text inside `Some(..)`, or `None`. -/
def maybe : Option String → String
  | none => "None"
  | some text => "Some(" ++ text ++ ")"

end FunctionAgent.Text
