import Crosscheck.Decimal.Binary64

/-!
# Numbers with a fixed number of places

The exact value is rounded to the nearest number with the given places, and a value
halfway between two goes to the even one.
-/

namespace Crosscheck.Decimal

/-- The nearest whole number to a quotient, of two equally near the even one. -/
def roundHalfEven (numerator denominator : Nat) : Nat :=
  let quotient := numerator / denominator
  let twice := 2 * (numerator % denominator)
  if twice > denominator ∨ (twice = denominator ∧ quotient % 2 = 1) then quotient + 1 else quotient

/-- Digits with a point before the last `places` of them and at least one digit before the point. -/
def pointed (digits : List Char) (places : Nat) : List Char :=
  let padded := List.replicate (places + 1 - digits.length) '0' ++ digits
  let whole := padded.take (padded.length - places)
  if places = 0 then whole else whole ++ '.' :: padded.drop (padded.length - places)

/-- A number with the given places. -/
def fixed (places : Nat) (number : Float) : String :=
  match Binary64.ofFloat number with
  | .nan => "NaN"
  | .infinite negative => if negative then "-inf" else "inf"
  | .finite negative mantissa exponent _ =>
    let (numerator, denominator) := ratio mantissa exponent
    let scaled := roundHalfEven (numerator * Nat.pow 10 places) denominator
    String.ofList ((if negative then ['-'] else []) ++ pointed (Nat.toDigits 10 scaled) places)

end Crosscheck.Decimal
