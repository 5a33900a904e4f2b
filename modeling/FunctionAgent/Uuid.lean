import FunctionAgent.Text.Hex
/-!
# Function identifiers

A function is named by a UUID of 16 bytes, kept as its 32 hexadecimal digits. It has several
accepted spellings: the digits alone, the digits in five groups with hyphens between them, and the
grouped form between braces or behind `urn:uuid:`. It is printed grouped, in lower case.

The main statement is that the printed form reads back, so it names its function and no other.
-/

set_option autoImplicit false

namespace FunctionAgent

open FunctionAgent.Text

/-- A UUID as its 32 hexadecimal digits, the most significant first. -/
structure Uuid where
  digits : List (Fin 16)
  length_digits : digits.length = 32
  deriving DecidableEq

namespace Uuid

/-- The UUID whose digits are all zero. -/
def nil : Uuid := ⟨List.replicate 32 ⟨0, by decide⟩, by decide⟩

instance : Inhabited Uuid := ⟨nil⟩

/-- Joins digits to bytes, high half first. -/
def pairs : List (Fin 16) → List UInt8
  | hi :: lo :: rest => Hex.ofHalves hi lo :: pairs rest
  | _ => []

/-- The 16 bytes. -/
def bytes (u : Uuid) : List UInt8 := pairs u.digits

/-- The order of the bytes, which is that of the digits. -/
instance : LT Uuid := ⟨fun a b => a.digits < b.digits⟩

instance (a b : Uuid) : Decidable (a < b) := inferInstanceAs (Decidable (a.digits < b.digits))

theorem lt_irrefl (a : Uuid) : ¬a < a := List.lt_irrefl a.digits

theorem lt_trans {a b c : Uuid} (hab : a < b) (hbc : b < c) : a < c := List.lt_trans hab hbc

theorem lt_or_eq_or_lt (a b : Uuid) : a < b ∨ a = b ∨ b < a := by
  by_cases hab : a.digits < b.digits
  · exact .inl hab
  · rcases List.le_iff_lt_or_eq.mp (List.not_lt.mp hab) with h | h
    · exact .inr (.inr h)
    · refine .inr (.inl ?_)
      cases a; cases b; simp_all

/-- The UUID of some digits, if there are 32 of them. -/
def ofDigits? (ds : List (Fin 16)) : Option Uuid :=
  if h : ds.length = 32 then some ⟨ds, h⟩ else none

/-- Sets the five groups of 32 characters apart. -/
def hyphenate (cs : List Char) : List Char :=
  cs.take 8 ++ '-' :: (cs.drop 8).take 4 ++ '-' :: (cs.drop 12).take 4
    ++ '-' :: (cs.drop 16).take 4 ++ '-' :: cs.drop 20

/-- The characters of five groups that stand 8, 4, 4, 4 and 12 apart. -/
def dehyphenate? (cs : List Char) : Option (List Char) :=
  if cs.length = 36 ∧ cs[8]? = some '-' ∧ cs[13]? = some '-' ∧ cs[18]? = some '-'
      ∧ cs[23]? = some '-' then
    some (cs.take 8 ++ (cs.drop 9).take 4 ++ (cs.drop 14).take 4 ++ (cs.drop 19).take 4
      ++ cs.drop 24)
  else none

/-- Reads 32 digits. -/
def ofSimple? (cs : List Char) : Option Uuid :=
  (cs.mapM Hex.digit?).bind ofDigits?

/-- Reads the grouped form. -/
def ofHyphenated? (cs : List Char) : Option Uuid :=
  (dehyphenate? cs).bind ofSimple?

/-- The grouped form inside braces. -/
def inBraces? : List Char → Option (List Char)
  | '\x7b' :: rest => if rest.getLast? = some '\x7d' then some rest.dropLast else none
  | _ => none

/-- The scheme of a UUID written as a URN. -/
def urnScheme : List Char := "urn:uuid:".toList

/-- The grouped form behind the scheme of a URN, in any case. -/
def behindUrn? (cs : List Char) : Option (List Char) :=
  if (cs.take urnScheme.length).map Char.toLower = urnScheme then some (cs.drop urnScheme.length)
  else none

/-- Reads any accepted spelling; which one it can be is seen from the length. -/
def ofChars? (cs : List Char) : Option Uuid :=
  if cs.length = 32 then ofSimple? cs
  else if cs.length = 36 then ofHyphenated? cs
  else if cs.length = 38 then (inBraces? cs).bind ofHyphenated?
  else if cs.length = 45 then (behindUrn? cs).bind ofHyphenated?
  else none

/-- Reads any accepted spelling; nothing is trimmed. -/
def parse? (s : String) : Option Uuid := ofChars? s.toList

/-- The printed characters. -/
def chars (u : Uuid) : List Char := hyphenate (u.digits.map Hex.digit)

/-- The printed form: grouped, lower case. -/
def render (u : Uuid) : String := String.ofList u.chars

instance : ToString Uuid := ⟨render⟩

theorem length_chars (u : Uuid) : u.chars.length = 36 := by
  have := u.length_digits
  simp [chars, hyphenate]
  omega

/-- Digits survive being written and read. -/
theorem mapM_digit? (ds : List (Fin 16)) : (ds.map Hex.digit).mapM Hex.digit? = some ds := by
  induction ds with
  | nil => rfl
  | cons d rest ih => simp [List.mapM_cons, Hex.digit?_digit, ih]

theorem ofSimple?_digits (u : Uuid) : ofSimple? (u.digits.map Hex.digit) = some u := by
  rw [ofSimple?, mapM_digit?]
  simp [ofDigits?, u.length_digits]

/-- Grouping 32 characters and ungrouping them gives them back. -/
theorem dehyphenate?_hyphenate {cs : List Char} (h : cs.length = 32) :
    dehyphenate? (hyphenate cs) = some cs := by
  match cs, h with
  | [a0, a1, a2, a3, a4, a5, a6, a7, a8, a9, b0, b1, b2, b3, b4, b5, b6, b7, b8, b9, c0, c1, c2,
      c3, c4, c5, c6, c7, c8, c9, d0, d1], _ => rfl

/-- The printed form reads back. -/
theorem parse?_render (u : Uuid) : parse? u.render = some u := by
  have h := u.length_chars
  have hd : (u.digits.map Hex.digit).length = 32 := by simp [u.length_digits]
  have back : dehyphenate? u.chars = some (u.digits.map Hex.digit) := dehyphenate?_hyphenate hd
  simp [parse?, render, ofChars?, h, ofHyphenated?, back, ofSimple?_digits]

/-- Two functions never print the same identifier. -/
theorem render_injective {u v : Uuid} (h : u.render = v.render) : u = v := by
  have hu := parse?_render u
  rw [h, parse?_render v] at hu
  exact (Option.some.inj hu).symm

end Uuid

end FunctionAgent
