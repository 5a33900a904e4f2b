import FunctionAgent.Decimal.Binary64
/-!
# The shortest decimal text of a number

A number is written with the fewest digits that read back as the same number; of several such
decimals the nearest is taken, and of two equally near ones the even one. The text is positional
while the point falls within the first sixteen digits or at most five places before them, and in
scientific notation otherwise. A point is always followed by a digit.
-/

set_option autoImplicit false

namespace FunctionAgent.Decimal

/-- The most digits that a number can need. -/
def maxDigits : Nat := 17

/-- A decimal `digits * 10 ^ exponent`. -/
structure Scientific where
  digits : Nat
  exponent : Int
  deriving DecidableEq, Repr

namespace Scientific

/-- The numerator and the denominator of a decimal. -/
def ratio (d : Scientific) : Nat × Nat :=
  (d.digits * Nat.pow 10 d.exponent.toNat, Nat.pow 10 (-d.exponent).toNat)

/-- The same decimal without trailing zeros; `fuel` bounds their number. -/
def trimmed : (fuel : Nat) → Scientific → Scientific
  | 0, d => d
  | fuel + 1, d =>
    if d.digits % 10 = 0 ∧ d.digits ≠ 0 then trimmed fuel ⟨d.digits / 10, d.exponent + 1⟩ else d

end Scientific

/-- The order of two ratios. -/
def compareRatio (a b : Nat × Nat) : Ordering := compare (a.1 * b.2) (b.1 * a.2)

namespace Binary64

/-- The ends of the interval of ratios that round to a number. -/
def roundingInterval (x : Binary64) : (Nat × Nat) × (Nat × Nat) :=
  let below := if x.mantissa = 1 <<< 52 ∧ minExponent < x.exponent then 1 else 2
  (scale2 (4 * x.mantissa - below) (x.exponent - 2), scale2 (4 * x.mantissa + 2) (x.exponent - 2))

/-- Whether a decimal reads back as the number: the ends of the interval round to even mantissas. -/
def readsBack (x : Binary64) (d : Scientific) : Bool :=
  let (low, high) := x.roundingInterval
  match compareRatio low d.ratio, compareRatio d.ratio high with
  | .lt, .lt => true
  | .gt, _ => false
  | _, .gt => false
  | _, _ => x.mantissa % 2 == 0

/-- The place of the first digit of a positive number: `10 ^ (place - 1) ≤ x < 10 ^ place`. -/
def place (x : Binary64) : Int :=
  let (num, den) := x.ratio
  ((Nat.toDigits 10 (num * Nat.pow 10 400 / den)).length : Int) - 400

/-- The better of the two neighbours of a number on the grid of a power of ten, if one reads
back. -/
def onGrid? (x : Binary64) (k : Int) : Option Scientific :=
  let (num, den) := x.ratio
  let unit := (Scientific.mk 1 k).ratio
  let floor := num * unit.2 / (den * unit.1)
  let low : Scientific := ⟨floor, k⟩
  let high : Scientific := ⟨floor + 1, k⟩
  let remainder := num * unit.2 % (den * unit.1)
  match x.readsBack low, x.readsBack high with
  | true, true =>
    match compare (2 * remainder) (den * unit.1) with
    | .lt => some low
    | .gt => some high
    | .eq => if floor % 2 = 0 then some low else some high
  | true, false => some low
  | false, true => some high
  | false, false => none

/-- The first of the grids from `count` digits on that has a decimal which reads back. -/
def shortestFrom (x : Binary64) : (fuel count : Nat) → Scientific
  | 0, _ => ⟨0, 0⟩
  | fuel + 1, count =>
    match x.onGrid? (x.place - count) with
    | some d => d.trimmed maxDigits
    | none => shortestFrom x fuel (count + 1)

/-- The shortest decimal of a positive number. -/
def shortest (x : Binary64) : Scientific := x.shortestFrom maxDigits 1

/-- The text of a number without its sign. -/
def render (x : Binary64) : String :=
  if x.mantissa = 0 then "0.0"
  else
    let d := x.shortest
    let ds := Nat.toDigits 10 d.digits
    let point : Int := ds.length + d.exponent
    if 0 ≤ d.exponent ∧ point ≤ 16 then
      String.ofList (ds ++ List.replicate d.exponent.toNat '0') ++ ".0"
    else if 0 < point ∧ point ≤ 16 then
      String.ofList (ds.take point.toNat) ++ "." ++ String.ofList (ds.drop point.toNat)
    else if -5 < point ∧ point ≤ 0 then
      "0." ++ String.ofList (List.replicate (-point).toNat '0' ++ ds)
    else
      let exponent := toString (point - 1)
      match ds with
      | [digit] => String.singleton digit ++ "e" ++ exponent
      | digits => String.ofList (digits.take 1) ++ "." ++ String.ofList (digits.drop 1) ++ "e"
          ++ exponent

end Binary64

end FunctionAgent.Decimal
