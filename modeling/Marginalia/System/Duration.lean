import Marginalia.Text.Basic

/-!
# `Marginalia.System.Duration`: spans of time

A span is counted in nanoseconds and written in the largest unit of
which it holds a whole one, with as many decimals as it needs.
-/

set_option autoImplicit false

namespace Marginalia

/-- A span of time. -/
structure Duration where
  nanos : Nat
deriving DecidableEq

namespace Duration

/-- The nanoseconds in a second. -/
def second : Nat := 1000000000

/-- The nanoseconds in a millisecond. -/
def millisecond : Nat := 1000000

/-- The nanoseconds in a microsecond. -/
def microsecond : Nat := 1000

/-- A span of whole seconds. -/
def ofSeconds (n : Nat) : Duration := ⟨n * second⟩

/-- A span of whole milliseconds. -/
def ofMillis (n : Nat) : Duration := ⟨n * millisecond⟩

/-- A number with leading zeros up to `width` digits. -/
def padded (width n : Nat) : Text :=
  let digits := Text.ofNat n
  List.replicate (width - digits.length) '0' ++ digits

/-- `n` nanoseconds in units of which each holds `unit`, a number with
`places` zeros; without zeros at the end of the decimals. -/
def decimal (unit places n : Nat) : Text :=
  let decimals := padded places (n % unit)
  let shown := (decimals.reverse.dropWhile (· = '0')).reverse
  Text.ofNat (n / unit) ++ (if shown = [] then [] else '.' :: shown)

/-- The wording of a span. -/
def message (d : Duration) : Text :=
  if second ≤ d.nanos then decimal second 9 d.nanos ++ "s"
  else if millisecond ≤ d.nanos then decimal millisecond 6 d.nanos ++ "ms"
  else if microsecond ≤ d.nanos then decimal microsecond 3 d.nanos ++ "µs"
  else Text.ofNat d.nanos ++ "ns"

end Duration

end Marginalia
