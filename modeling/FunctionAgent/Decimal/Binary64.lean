/-!
# Binary floating point numbers of 64 bits

A finite number without its sign is `mantissa * 2 ^ exponent`, where the mantissa has at most 53
bits and uses them all unless the exponent is the smallest one. Every operation is exact rational
arithmetic followed by one rounding to the nearest number, ties to the even mantissa; a result past
the largest number has no value here.
-/

set_option autoImplicit false

namespace FunctionAgent.Decimal

/-- The size of a finite number. -/
structure Binary64 where
  mantissa : Nat
  exponent : Int
  deriving DecidableEq, Repr, Inhabited

namespace Binary64

/-- The smallest exponent, that of the numbers closest to zero. -/
def minExponent : Int := -1074

/-- The largest exponent. -/
def maxExponent : Int := 971

/-- Zero. -/
def zero : Binary64 := ⟨0, minExponent⟩

/-- The numerator and the denominator of `m * 2 ^ e`. -/
def scale2 (m : Nat) (e : Int) : Nat × Nat := (m <<< e.toNat, 1 <<< (-e).toNat)

/-- The numerator and the denominator of a number. -/
def ratio (x : Binary64) : Nat × Nat := scale2 x.mantissa x.exponent

/-- The nearest natural number to a ratio; of two equally near ones the even one. -/
def nearest (num den : Nat) : Nat :=
  let q := num / den
  let r := num % den
  if 2 * r < den then q else if den < 2 * r then q + 1 else if q % 2 = 0 then q else q + 1

/-- The exponent at which a ratio has a mantissa of 53 bits before rounding. -/
def exponentOf (num den : Nat) : Int :=
  let low : Int := (Nat.log2 num : Int) - (Nat.log2 den : Int) - 53
  let q := scale2 den low
  if num * q.2 < q.1 <<< 53 then low else low + 1

/-- The nearest number to a ratio, or none if the ratio lies past the largest number. -/
def round? (num den : Nat) : Option Binary64 :=
  if num = 0 then some zero
  else
    let e := max minExponent (exponentOf num den)
    let q := scale2 den e
    let m := nearest (num * q.2) q.1
    let x : Binary64 := if m = 1 <<< 53 then ⟨1 <<< 52, e + 1⟩ else ⟨m, e⟩
    if maxExponent < x.exponent then none else some x

/-- The product. -/
def times? (x y : Binary64) : Option Binary64 :=
  round? (x.ratio.1 * y.ratio.1) (x.ratio.2 * y.ratio.2)

/-- The quotient by a number other than zero. -/
def over? (x y : Binary64) : Option Binary64 :=
  round? (x.ratio.1 * y.ratio.2) (x.ratio.2 * y.ratio.1)

/-- The number nearest to a natural number. -/
def ofNat? (n : Nat) : Option Binary64 := round? n 1

/-- The largest power of ten that is a number. -/
def maxPower : Nat := 308

/-- The number nearest to a power of ten up to the largest. -/
def power (n : Nat) : Binary64 := (ofNat? (Nat.pow 10 n)).getD zero

/-- A number of up to 64 bits times a power of ten, by one rounding of each factor and one of the
result. Past the smallest power of ten the division is made in two steps, and whatever lies below
those is zero. -/
def ofScientific? (significand : Nat) (exponent : Int) : Option Binary64 :=
  (ofNat? significand).bind fun x =>
    let n := exponent.natAbs
    if 0 ≤ exponent then
      if n ≤ maxPower then x.times? (power n)
      else if x.mantissa = 0 then some x else none
    else if n ≤ maxPower then x.over? (power n)
    else if n ≤ 2 * maxPower then
      (x.over? (power maxPower)).bind fun y => y.over? (power (n - maxPower))
    else some zero

end Binary64

end FunctionAgent.Decimal
