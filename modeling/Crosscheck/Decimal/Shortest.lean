import Crosscheck.Decimal.Fixed

/-!
# Numbers with the fewest digits

A number is shown with the fewest digits that read back as the same number, and of the
candidates with that many digits the nearest one. No exponent is written, and a whole
number has no point.
-/

namespace Crosscheck.Decimal

/-- A finite positive number, `mantissa * 2 ^ exponent`, with the width of its gaps. -/
structure Positive where
  mantissa : Nat
  exponent : Int
  boundary : Bool
  deriving DecidableEq, Repr

namespace Positive

/-- Compare `count * 10 ^ places` with `quarters` quarters of a unit in the last place of
the mantissa: both as whole numbers over a common denominator. -/
def scale (number : Positive) (count : Nat) (places : Int) (quarters : Nat) : Nat × Nat :=
  let (numerator, denominator) := ratio quarters (number.exponent - 2)
  if places ≥ 0 then (count * Nat.pow 10 places.toNat * denominator, numerator)
  else (count * denominator, numerator * Nat.pow 10 (-places).toNat)

/-- Whether `count * 10 ^ places` reads back as the number: it lies no more than half a gap
away, and at exactly half a gap an even mantissa wins. -/
def reads (number : Positive) (count : Nat) (places : Int) : Bool :=
  let below := 4 * number.mantissa - (if number.boundary then 1 else 2)
  let (value, lower) := number.scale count places below
  let (value', upper) := number.scale count places (4 * number.mantissa + 2)
  if number.mantissa % 2 = 0 then lower ≤ value && value' ≤ upper
  else lower < value && value' < upper

/-- The number of digits of a natural number. -/
def digitCount (value : Nat) : Nat := (Nat.toDigits 10 value).length

/-- The least power of ten above the number. -/
def magnitude (number : Positive) : Int :=
  let (numerator, denominator) := ratio number.mantissa number.exponent
  if numerator ≥ denominator then digitCount (numerator / denominator)
  else 1 - digitCount ((denominator - 1) / numerator)

/-- The neighbour with the given places that reads back as the number, the nearer one of
two and the upper one of two equally near. -/
def neighbour? (number : Positive) (places : Int) : Option Nat :=
  let (numerator, denominator) := ratio number.mantissa number.exponent
  let (dividend, divisor) :=
    if places ≥ 0 then (numerator, denominator * Nat.pow 10 places.toNat)
    else (numerator * Nat.pow 10 (-places).toNat, denominator)
  let lower := dividend / divisor
  let upperIsNearer := 2 * (dividend % divisor) ≥ divisor
  match number.reads lower places, number.reads (lower + 1) places with
  | true, true => some (if upperIsNearer then lower + 1 else lower)
  | true, false => some lower
  | false, true => some (lower + 1)
  | false, false => none

/-- Try one more digit at a time, with a number of tries left. An upper neighbour that is
a power of ten has one digit only. -/
def fewest (number : Positive) (digits : Nat) : Nat → Nat × Int
  | 0 => (0, 0)
  | tries + 1 =>
    let places := number.magnitude - digits
    match number.neighbour? places with
    | some count => if count = Nat.pow 10 digits then (1, number.magnitude) else (count, places)
    | none => number.fewest (digits + 1) tries

/-- The text of `count * 10 ^ places`. -/
def text (count : Nat) (places : Int) : List Char :=
  if places ≥ 0 then Nat.toDigits 10 (count * Nat.pow 10 places.toNat)
  else pointed (Nat.toDigits 10 count) (-places).toNat

end Positive

/-- The most digits that a number needs to be told from its neighbours. -/
def maxDigits : Nat := 17

/-- A number with the fewest digits. -/
def shortest (number : Float) : String :=
  match Binary64.ofFloat number with
  | .nan => "NaN"
  | .infinite negative => if negative then "-inf" else "inf"
  | .finite negative mantissa exponent boundary =>
    let digits :=
      if mantissa = 0 then ['0']
      else
        let (count, places) := (Positive.mk mantissa exponent boundary).fewest 1 maxDigits
        Positive.text count places
    String.ofList ((if negative then ['-'] else []) ++ digits)

/-- The number nearest to `mantissa * 10 ^ exponent`, infinite beyond the largest one. An
exponent far outside the range of numbers is not evaluated. -/
def ofDecimal (mantissa : Nat) (exponent : Int) : Float :=
  let magnitude := Positive.digitCount mantissa + exponent
  if mantissa = 0 ∨ magnitude < -400 then 0.0
  else if magnitude > 400 then 1.0 / 0.0
  else if exponent ≥ 0 then Float.ofScientific mantissa false exponent.toNat
  else Float.ofScientific mantissa true (-exponent).toNat

end Crosscheck.Decimal
