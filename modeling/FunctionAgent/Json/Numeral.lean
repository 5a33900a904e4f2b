import FunctionAgent.Json.Fault
/-!
# JSON numbers

A numeral is a minus sign or none, a whole part without needless zeros in front, and optionally a
fraction and an exponent, each of at least one digit. Without a sign, a fraction and an exponent it
is a natural number as long as that fits in 64 bits; a plain negative number likewise. Everything
else is rounded to a floating point number: the digits that fit in 64 bits make up the significand,
further ones only count.
-/

set_option autoImplicit false

namespace FunctionAgent.Json

open FunctionAgent.Decimal
open FunctionAgent.Text

/-- A numeral by its parts, each a run of digits. -/
structure Numeral where
  isNegative : Bool
  whole : List Char
  fraction : Option (List Char)
  /-- Whether the exponent is negative, and its digits. -/
  exponent : Option (Bool × List Char)
  deriving DecidableEq, Repr

/-- A decimal digit. -/
def isDigit (c : Char) : Bool := (digit? c).isSome

/-- What a reader of a part gives: the part and what it left, or what was left where it failed. -/
abbrev Part (α : Type) := Except (List Char) (α × List Char)

namespace Numeral

/-- A run of digits that is not empty. -/
def run (cs : List Char) : Part (List Char) :=
  match cs.takeWhile isDigit with
  | [] => .error cs
  | d :: ds => .ok (d :: ds, cs.dropWhile isDigit)

/-- The whole part: a zero, behind which no digit may stand, or a run of digits. -/
def wholePart (cs : List Char) : Part (List Char) :=
  match cs with
  | '0' :: rest => if rest.head?.any isDigit then .error rest else .ok (['0'], rest)
  | cs => run cs

/-- The fraction behind a point. -/
def fractionPart (cs : List Char) : Part (Option (List Char)) :=
  match cs with
  | '.' :: rest => (run rest).map fun (ds, left) => (some ds, left)
  | cs => .ok (none, cs)

/-- The sign of an exponent, and what stands behind it. -/
def exponentSign (cs : List Char) : Bool × List Char :=
  match cs with
  | '+' :: rest => (false, rest)
  | '-' :: rest => (true, rest)
  | cs => (false, cs)

/-- The exponent behind its letter. -/
def exponentPart (cs : List Char) : Part (Option (Bool × List Char)) :=
  match cs with
  | c :: rest =>
    if c = 'e' ∨ c = 'E' then
      (run (exponentSign rest).2).map fun (ds, left) => (some ((exponentSign rest).1, ds), left)
    else .ok (none, c :: rest)
  | [] => .ok (none, [])

/-- A numeral without its sign. -/
def unsigned (isNegative : Bool) (cs : List Char) : Part Numeral :=
  match wholePart cs with
  | .error left => .error left
  | .ok (whole, rest) =>
    match fractionPart rest with
    | .error left => .error left
    | .ok (fraction, rest) =>
      match exponentPart rest with
      | .error left => .error left
      | .ok (exponent, rest) => .ok (⟨isNegative, whole, fraction, exponent⟩, rest)

/-- A numeral. -/
def read (cs : List Char) : Part Numeral :=
  match cs with
  | '-' :: rest => unsigned true rest
  | cs => unsigned false cs

/-- Takes digits into a value while it stays within a limit, and gives what it could not take. -/
def absorb (limit acc : Nat) : List Char → Nat × List Char
  | [] => (acc, [])
  | c :: rest =>
    let next := 10 * acc + (digit? c).getD 0
    if limit < next then (acc, c :: rest) else absorb limit next rest

/-- The significand, and the power of ten that it is to be taken times for the digits in front of
and behind the point. -/
def significand (n : Numeral) : Nat × Int :=
  let whole := absorb word64Max 0 n.whole
  let fraction := n.fraction.getD []
  let all := absorb word64Max whole.1 fraction
  (all.1, (whole.2.length : Int) - (fraction.length - all.2.length : Nat))

/-- The natural number that a numeral is, apart from its sign. -/
def natural? (n : Numeral) : Option Nat :=
  match n.fraction, n.exponent, absorb word64Max 0 n.whole with
  | none, none, (value, []) => some value
  | _, _, _ => none

/-- The largest exponent that is counted out. -/
def exponentMax : Nat := 2_147_483_647

/-- The rounded size of a numeral behind which `rest` is left. -/
def real (n : Numeral) (rest : List Char) : Except (Fault Complaint) Number :=
  let (digits, shift) := n.significand
  let sized (size : Option Binary64) : Except (Fault Complaint) Number :=
    match size with
    | some size => .ok (.real n.isNegative size)
    | none => .error (.here .numberOutOfRange rest)
  match n.exponent with
  | none => sized (Binary64.ofScientific? digits shift)
  | some (isNegative, ds) =>
    match absorb exponentMax 0 ds with
    | (e, []) =>
      sized (Binary64.ofScientific? digits (if isNegative then shift - e else shift + e))
    | (_, _ :: more) =>
      if digits ≠ 0 ∧ isNegative = false then .error (.here .numberOutOfRange (more ++ rest))
      else .ok (.real n.isNegative Binary64.zero)

/-- The number of a numeral behind which `rest` is left. -/
def number (n : Numeral) (rest : List Char) : Except (Fault Complaint) Number :=
  match n.natural? with
  | some value =>
    if n.isNegative = false then .ok (.natural value)
    else if 0 < value ∧ value ≤ 9_223_372_036_854_775_808 then .ok (.negative value)
    else n.real rest
  | none => n.real rest

theorem length_run {cs ds rest : List Char} (h : run cs = .ok (ds, rest)) :
    rest.length < cs.length := by
  unfold run at h
  split at h
  · cases h
  · rename_i d more hw
    cases h
    have := congrArg List.length (List.takeWhile_append_dropWhile (p := isDigit) (l := cs))
    rw [hw] at this
    simp only [List.length_append, List.length_cons] at this
    omega

theorem length_wholePart {cs ds rest : List Char} (h : wholePart cs = .ok (ds, rest)) :
    rest.length < cs.length := by
  unfold wholePart at h
  split at h
  · split at h
    · cases h
    · cases h; simp
  · exact length_run h

theorem length_fractionPart {cs rest : List Char} {f : Option (List Char)}
    (h : fractionPart cs = .ok (f, rest)) : rest.length ≤ cs.length := by
  unfold fractionPart at h
  split at h
  · rename_i tail
    cases hr : run tail with
    | error e => simp [hr, Except.map] at h
    | ok v =>
      obtain ⟨_, _⟩ := v
      have := length_run hr
      simp only [hr, Except.map, Except.ok.injEq, Prod.mk.injEq] at h
      obtain ⟨_, rfl⟩ := h
      simp only [List.length_cons]; omega
  · cases h; exact Nat.le_refl _

theorem length_exponentSign (cs : List Char) : (exponentSign cs).2.length ≤ cs.length := by
  unfold exponentSign
  split <;> simp

theorem length_exponentPart {cs rest : List Char} {e : Option (Bool × List Char)}
    (h : exponentPart cs = .ok (e, rest)) : rest.length ≤ cs.length := by
  unfold exponentPart at h
  split at h
  · rename_i c tail
    split at h
    · have hs := length_exponentSign tail
      cases hr : run (exponentSign tail).2 with
      | error e => simp [hr, Except.map] at h
      | ok v =>
        obtain ⟨_, _⟩ := v
        have := length_run hr
        simp only [hr, Except.map, Except.ok.injEq, Prod.mk.injEq] at h
        obtain ⟨_, rfl⟩ := h
        simp only [List.length_cons]; omega
    · cases h; exact Nat.le_refl _
  · cases h; exact Nat.le_refl _

theorem length_unsigned {isNegative : Bool} {cs rest : List Char} {n : Numeral}
    (h : unsigned isNegative cs = .ok (n, rest)) : rest.length < cs.length := by
  unfold unsigned at h
  split at h
  · cases h
  · rename_i whole left hw
    have := length_wholePart hw
    split at h
    · cases h
    · rename_i fraction left hf
      have := length_fractionPart hf
      split at h
      · cases h
      · rename_i exponent left he
        have := length_exponentPart he
        cases h; omega

theorem length_read {cs rest : List Char} {n : Numeral} (h : read cs = .ok (n, rest)) :
    rest.length < cs.length := by
  unfold read at h
  split at h
  · have := length_unsigned h
    simp only [List.length_cons]; omega
  · exact length_unsigned h

end Numeral

end FunctionAgent.Json
