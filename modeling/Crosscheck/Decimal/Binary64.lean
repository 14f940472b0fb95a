/-!
# Binary floating point numbers as exact values

A finite number is a natural mantissa times a power of two, with a sign. Every text
of a number is decided by that exact value.
-/

namespace Crosscheck.Decimal

/-- The exact value of a number of 64 bits. -/
inductive Binary64 where
  | nan
  | infinite (negative : Bool)
  /-- `mantissa * 2 ^ exponent`; the two neighbours lie half as far below as above if
  `boundary` is set, as they do at a power of two. -/
  | finite (negative : Bool) (mantissa : Nat) (exponent : Int) (boundary : Bool)
  deriving DecidableEq, Repr

/-- Read the sign, the exponent and the fraction of a number. -/
def Binary64.ofBits (bits : UInt64) : Binary64 :=
  let negative := bits >>> 63 != 0
  let biased := ((bits >>> 52) &&& 0x7FF).toNat
  let fraction := (bits &&& 0xFFFFFFFFFFFFF).toNat
  if biased = 0x7FF then if fraction = 0 then .infinite negative else .nan
  else if biased = 0 then .finite negative fraction (-1074) false
  else .finite negative (Nat.pow 2 52 + fraction) (biased - 1075) (fraction = 0 && biased > 1)

/-- The exact value of a number. -/
def Binary64.ofFloat (number : Float) : Binary64 := ofBits number.toBits

/-- The number nearest to a count below 2^64. -/
def ofCount (count : Nat) : Float := (UInt64.ofNat count).toFloat

/-- The numerator and the denominator of `mantissa * 2 ^ exponent`. -/
def ratio (mantissa : Nat) (exponent : Int) : Nat × Nat :=
  if exponent ≥ 0 then (mantissa * Nat.pow 2 exponent.toNat, 1) else (mantissa, Nat.pow 2 (-exponent).toNat)

end Crosscheck.Decimal
