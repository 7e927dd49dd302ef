import AltBit.Duration

/-!
Durations as text: a decimal number of the largest unit that fits at least once, without zeros at
the end of the fraction.
-/
namespace AltBit.Duration

/-- The digits after the point of `part / 10 ^ places`, without the zeros at the end. -/
def fraction (part places : Nat) : String :=
  let digits := (Nat.toDigits 10 part).reverse
  let digits := (digits ++ List.replicate (places - digits.length) '0').dropWhile (· = '0')
  String.ofList digits.reverse

/-- `whole + part / 10 ^ places` of a unit. -/
def inUnit (whole part places : Nat) (unit : String) : String :=
  if part = 0 then toString whole ++ unit
  else toString whole ++ "." ++ fraction part places ++ unit

def render (d : Duration) : String :=
  if 0 < d.secs then inUnit d.secs d.nanos 9 "s"
  else if 1000000 ≤ d.nanos then inUnit (d.nanos / 1000000) (d.nanos % 1000000) 6 "ms"
  else if 1000 ≤ d.nanos then inUnit (d.nanos / 1000) (d.nanos % 1000) 3 "µs"
  else inUnit d.nanos 0 0 "ns"

end AltBit.Duration
