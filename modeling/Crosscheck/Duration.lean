/-!
# Durations

Times are whole numbers of nanoseconds. A duration is shown in its largest unit that
leaves at least one whole, with the digits of the rest that are needed.
-/

namespace Crosscheck.Duration

/-- The nanoseconds of a number of milliseconds. -/
def ofMillis (millis : Nat) : Nat := millis * 1000000

/-- The nanoseconds of a number of seconds. -/
def ofSeconds (seconds : Nat) : Nat := seconds * 1000000000

/-- The decimal digits of a number, filled with leading zeros to the given count. -/
def padded (count value : Nat) : List Char :=
  let digits := Nat.toDigits 10 value
  List.replicate (count - digits.length) '0' ++ digits

/-- A count of a unit that has `places` decimal places, without trailing zeros. -/
def inUnit (nanos places : Nat) (unit : String) : String :=
  let fraction := (padded places (nanos % Nat.pow 10 places)).reverse.dropWhile (· == '0') |>.reverse
  let point := if fraction.isEmpty then [] else '.' :: fraction
  toString (nanos / Nat.pow 10 places) ++ String.ofList point ++ unit

/-- The text of a duration, such as `2s`, `1.5ms`, `60µs` or `0ns`. -/
def text (nanos : Nat) : String :=
  if nanos ≥ 1000000000 then inUnit nanos 9 "s"
  else if nanos ≥ 1000000 then inUnit nanos 6 "ms"
  else if nanos ≥ 1000 then inUnit nanos 3 "µs"
  else inUnit nanos 0 "ns"

end Crosscheck.Duration
