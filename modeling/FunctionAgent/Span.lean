/-!
# Spans of time

A span of time is a whole number of nanoseconds whose seconds fit in 64 bits. Waits are multiples
of a configured span, and such a multiple need not be a span any more: `Span.times?` says so. The
clock that waits are measured on ticks in milliseconds, so a wait lasts `Span.ticks`.
-/

set_option autoImplicit false

namespace FunctionAgent

/-- A span of time, in nanoseconds. -/
structure Span where
  nanos : Nat
  nanos_lt : nanos < 18_446_744_073_709_551_616 * 1_000_000_000
  deriving DecidableEq

namespace Span

/-- No time at all. -/
def zero : Span := ⟨0, by decide⟩

/-- The span of some seconds and nanoseconds, if the seconds fit. -/
def of? (seconds nanos : Nat) : Option Span :=
  if h : seconds * 1_000_000_000 + nanos < 18_446_744_073_709_551_616 * 1_000_000_000 then some ⟨seconds * 1_000_000_000 + nanos, h⟩
  else none

/-- A number of milliseconds; the longest span if there are too many. -/
def ofMillis (ms : Nat) : Span :=
  ⟨min (ms * 1_000_000) (18_446_744_073_709_551_616 * 1_000_000_000 - 1), by omega⟩

/-- A number of seconds; the longest span if there are too many. -/
def ofSeconds (s : Nat) : Span :=
  ⟨min (s * 1_000_000_000) (18_446_744_073_709_551_616 * 1_000_000_000 - 1), by omega⟩

instance : Inhabited Span := ⟨zero⟩

instance : LE Span := ⟨fun a b => a.nanos ≤ b.nanos⟩
instance : LT Span := ⟨fun a b => a.nanos < b.nanos⟩
instance (a b : Span) : Decidable (a ≤ b) := inferInstanceAs (Decidable (a.nanos ≤ b.nanos))
instance (a b : Span) : Decidable (a < b) := inferInstanceAs (Decidable (a.nanos < b.nanos))

/-- The whole seconds of a span. -/
def seconds (d : Span) : Nat := d.nanos / 1_000_000_000

/-- The nanoseconds of a span beyond its whole seconds. -/
def subsecNanos (d : Span) : Nat := d.nanos % 1_000_000_000

/-- Whole seconds fit in 64 bits. -/
theorem seconds_lt (d : Span) : d.seconds < 18_446_744_073_709_551_616 := by
  have := d.nanos_lt
  simp only [seconds]
  omega

/-- A multiple of a span, if it is one. -/
def times? (d : Span) (n : Nat) : Option Span :=
  if h : d.nanos * n < 18_446_744_073_709_551_616 * 1_000_000_000 then some ⟨d.nanos * n, h⟩ else none

/-- Milliseconds that a wait of this span lasts: the clock rings at the first full millisecond
that is not too early. -/
def ticks (d : Span) : Nat := (d.nanos + (1_000_000 - 1)) / 1_000_000

/-- A span of whole milliseconds lasts exactly these. -/
theorem ticks_ofMillis {ms : Nat} (h : ms * 1_000_000 < 18_446_744_073_709_551_616 * 1_000_000_000) :
    (ofMillis ms).ticks = ms := by
  simp only [ticks, ofMillis]
  omega

/-- Decimal digits of a fraction below `10 ^ places`, without trailing zeros. -/
def fractionDigits : (places : Nat) → (part : Nat) → List Char
  | 0, _ => []
  | places + 1, part =>
    if part = 0 then []
    else Nat.digitChar (part / Nat.pow 10 places) :: fractionDigits places (part % Nat.pow 10 places)

/-- A number with a fraction of `places` digits; no point is written if there is no fraction. -/
def decimal (whole part places : Nat) : String :=
  if part = 0 then toString whole
  else toString whole ++ "." ++ String.ofList (fractionDigits places part)

/-- A span is shown in the largest of the units s, ms, µs and ns that it reaches, with the exact
fraction. -/
def render (d : Span) : String :=
  if 1_000_000_000 ≤ d.nanos then decimal (d.nanos / 1_000_000_000) (d.nanos % 1_000_000_000) 9 ++ "s"
  else if 1_000_000 ≤ d.nanos then decimal (d.nanos / 1_000_000) (d.nanos % 1_000_000) 6 ++ "ms"
  else if 1_000 ≤ d.nanos then decimal (d.nanos / 1_000) (d.nanos % 1_000) 3 ++ "µs"
  else decimal d.nanos 0 0 ++ "ns"

end Span

end FunctionAgent
