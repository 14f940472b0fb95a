import Crosscheck.Decimal.Shortest

/-!
# Numbers with an exponent

The exact value is rounded to a number of significant digits, of which the first is no zero,
and a value halfway between two goes to the even one. The general form chooses between this
and a fixed number of places by the size of the exponent.
-/

namespace Crosscheck.Decimal

/-- The digits of a positive quotient, one more than `places` of them, with the exponent of
the first. -/
def significant (places numerator denominator : Nat) : List Char × Int :=
  let magnitude : Int :=
    if numerator ≥ denominator then Positive.digitCount (numerator / denominator)
    else 1 - Positive.digitCount ((denominator - 1) / numerator)
  let round (exponent : Int) : Nat :=
    let shift := (places : Int) - exponent
    if shift ≥ 0 then roundHalfEven (numerator * Nat.pow 10 shift.toNat) denominator
    else roundHalfEven numerator (denominator * Nat.pow 10 (-shift).toNat)
  let exponent := magnitude - 1
  let rounded := round exponent
  if rounded < Nat.pow 10 places then (Nat.toDigits 10 (round (exponent - 1)), exponent - 1)
  else if rounded ≥ Nat.pow 10 (places + 1) then (Nat.toDigits 10 (round (exponent + 1)), exponent + 1)
  else (Nat.toDigits 10 rounded, exponent)

/-- The text of an exponent: its sign and at least two digits. -/
def exponentText (exponent : Int) : List Char :=
  let digits := Nat.toDigits 10 exponent.natAbs
  (if exponent < 0 then '-' else '+') :: (List.replicate (2 - digits.length) '0' ++ digits)

/-- Digits with a point after the first of them. -/
def afterFirst (alternate : Bool) (digits : List Char) : List Char :=
  digits.take 1 ++ (if digits.length > 1 || alternate then ['.'] else []) ++ digits.drop 1

/-- Digits without the zeros at the end of their places, and the point if nothing is left
after it. -/
def withoutZeros (text : List Char) : List Char :=
  if text.contains '.' then
    let rest := text.reverse.dropWhile (· == '0')
    (if rest.head? == some '.' then rest.drop 1 else rest).reverse
  else text

/-- A positive quotient, or zero, with a number of places and an exponent. -/
def withExponent (places numerator denominator : Nat) (alternate : Bool) : List Char :=
  let (digits, exponent) : List Char × Int :=
    if numerator = 0 then (List.replicate (places + 1) '0', 0)
    else significant places numerator denominator
  afterFirst alternate digits ++ 'e' :: exponentText exponent

/-- A positive quotient, or zero, with a number of places. -/
def withPlaces (places numerator denominator : Nat) (alternate : Bool) : List Char :=
  let scaled := roundHalfEven (numerator * Nat.pow 10 places) denominator
  pointed (Nat.toDigits 10 scaled) places ++ (if places = 0 && alternate then ['.'] else [])

/-- A positive quotient, or zero, with a number of significant digits. Unless the alternate
form is wanted, zeros at the end are left out. -/
def general (digits numerator denominator : Nat) (alternate : Bool) : List Char :=
  let digits := max digits 1
  let (shown, exponent) : List Char × Int :=
    if numerator = 0 then (List.replicate digits '0', 0)
    else significant (digits - 1) numerator denominator
  if exponent < -4 ∨ (digits : Int) ≤ exponent then
    let mantissa := afterFirst alternate shown
    (if alternate then mantissa else withoutZeros mantissa) ++ 'e' :: exponentText exponent
  else
    let places := ((digits : Int) - 1 - exponent).toNat
    let text := withPlaces places numerator denominator alternate
    if alternate then text else withoutZeros text

/-- The number that decimal digits write. -/
def valueOf (digits : List Char) : Nat :=
  digits.foldl (fun value digit => value * 10 + (digit.toNat - 48)) 0

/-- The exponent that a text starts with, zero if there is none, and what follows it. -/
def readExponent (mark : Char) (text : List Char) : Int × List Char :=
  match text with
  | [] => (0, text)
  | first :: after =>
    let (negative, digits) : Bool × List Char :=
      match after with
      | '-' :: digits => (true, digits)
      | '+' :: digits => (false, digits)
      | _ => (false, after)
    let spelled := digits.takeWhile Char.isDigit
    if first.toLower != mark || spelled.isEmpty then (0, text)
    else
      let size : Int := min (valueOf spelled) 100000
      (if negative then -size else size, digits.drop spelled.length)

/-- The number that a decimal text starts with, after its sign, and what follows it. -/
def readDecimal? (text : List Char) : Option (Float × List Char) :=
  let whole := text.takeWhile Char.isDigit
  let rest := text.drop whole.length
  let (places, rest) : List Char × List Char :=
    match rest with
    | '.' :: after => (after.takeWhile Char.isDigit, after.dropWhile Char.isDigit)
    | _ => ([], rest)
  if whole.isEmpty && places.isEmpty then none
  else
    let (exponent, rest) := readExponent 'e' rest
    let digits := (whole ++ places).dropWhile (· == '0')
    let exponent := exponent - places.length
    let number :=
      if digits.isEmpty then 0
      else if exponent + digits.length > 400 then 1 / 0
      else if exponent + digits.length < -400 then 0
      else Float.ofScientific (valueOf digits) (exponent < 0) exponent.natAbs
    some (number, rest)

/-- The number that a text in base sixteen starts with, after its sign and its mark, and what
follows it. The exponent is a power of two. -/
def readHex? (text : List Char) : Option (Float × List Char) :=
  let whole := text.takeWhile isDigit
  let rest := text.drop whole.length
  let (places, rest) : List Char × List Char :=
    match rest with
    | '.' :: after => (after.takeWhile isDigit, after.dropWhile isDigit)
    | _ => ([], rest)
  if whole.isEmpty && places.isEmpty then none
  else
    let (exponent, rest) := readExponent 'p' rest
    let size := (whole ++ places).foldl (fun value digit => value * 16 + digitValue digit) 0
    some ((Float.ofNat size).scaleB (exponent - 4 * places.length), rest)
where
  isDigit (char : Char) : Bool :=
    char.isDigit || ('a' ≤ char && char ≤ 'f') || ('A' ≤ char && char ≤ 'F')
  digitValue (digit : Char) : Nat :=
    if digit.isDigit then digit.toNat - 48 else digit.toNat % 32 + 9

/-- The letters at the start of a text that spell a word, in whatever case, and what
follows. -/
def acceptWord? (word : String) (text : List Char) : Option (List Char) :=
  let start := (text.take word.length).map Char.toLower
  if start = word.toList then some (text.drop word.length) else none

/-- The number that a text starts with, with its sign, and what follows it. -/
def readNumber? (text : List Char) : Option (Float × List Char) := do
  let text := text.dropWhile fun char => char == ' ' || ('\t' ≤ char && char ≤ '\r')
  let (negative, text) : Bool × List Char :=
    match text with
    | '-' :: rest => (true, rest)
    | '+' :: rest => (false, rest)
    | _ => (false, text)
  let (number, rest) ←
    match acceptWord? "infinity" text with
    | some rest => some (1 / 0, rest)
    | none =>
      match acceptWord? "inf" text with
      | some rest => some (1 / 0, rest)
      | none =>
        match acceptWord? "nan" text with
        | some rest => some (0 / 0, rest)
        | none => ((hexDigits? text).bind readHex?).or (readDecimal? text)
  return (if negative then -number else number, rest)
where
  hexDigits? : List Char → Option (List Char)
    | '0' :: mark :: digits => if mark.toLower == 'x' then some digits else none
    | _ => none

end Crosscheck.Decimal
