import Crosscheck.Decimal.Exponent
import Crosscheck.Text.Octets

/-!
# Formatted output

The escapes of `echo` and of formats, and the directives by which a format takes its
arguments. A format is used again as long as arguments remain.
-/

namespace Crosscheck.Script.Format

/-- An octal digit. -/
def isOctal (char : Char) : Bool := '0' ≤ char && char ≤ '7'

/-- The number that digits write in a base of up to sixteen. -/
def valueIn (base : Nat) (digits : List Char) : Nat :=
  digits.foldl (fun value digit =>
    value * base + (if digit.isDigit then digit.toNat - 48 else (digit.toNat % 32) + 9)) 0

/-- The octet of a number. -/
def octetChar (value : Nat) : Char := Char.ofNat (value % 256)

/-- The character of a one-letter escape. -/
def shortEscape? : Char → Option Char
  | 'a' => some '\x07'
  | 'b' => some '\x08'
  | 'e' => some '\x1b'
  | 'f' => some '\x0c'
  | 'n' => some '\n'
  | 'r' => some '\r'
  | 't' => some '\t'
  | 'v' => some '\x0b'
  | '\\' => some '\\'
  | _ => none

/-- Read an escape of a format after its backslash. An unknown one is no escape. -/
def readEscape (text : List Char) : Char × List Char :=
  let digits := (text.take 3).takeWhile isOctal
  if !digits.isEmpty then (octetChar (valueIn 8 digits), text.drop digits.length)
  else
    match text with
    | letter :: rest =>
      match shortEscape? letter with
      | some char => (char, rest)
      | none => ('\\', text)
    | [] => ('\\', [])

/-- Replace the escapes of `echo`, where octal digits follow a zero; whether the output
ends with it is told as well. The fuel bounds the number of characters. -/
def unescape : Nat → List Char → List Char × Bool
  | 0, _ => ([], false)
  | _, [] => ([], false)
  | _, '\\' :: 'c' :: _ => ([], true)
  | fuel + 1, '\\' :: '0' :: rest =>
    let digits := (rest.take 3).takeWhile isOctal
    let (later, stops) := unescape fuel (rest.drop digits.length)
    (octetChar (valueIn 8 digits) :: later, stops)
  | fuel + 1, '\\' :: rest =>
    let (char, rest) := readEscape rest
    let (later, stops) := unescape fuel rest
    (char :: later, stops)
  | fuel + 1, char :: rest =>
    let (later, stops) := unescape fuel rest
    (char :: later, stops)

/-- What `echo` writes. -/
def echo (arguments : List (List Char)) : List Char :=
  let (newline, arguments) :=
    match arguments with
    | ['-', 'n'] :: rest => (false, rest)
    | _ => (true, arguments)
  let text := [' '].intercalate arguments
  let (text, stops) := unescape text.length text
  if newline && !stops then text ++ ['\n'] else text

/-- How a directive lays out what it shows. -/
structure Layout where
  left : Bool := false
  zero : Bool := false
  plus : Bool := false
  space : Bool := false
  alternate : Bool := false
  width : Nat := 0
  precision : Option Nat := none
  deriving DecidableEq, Repr

/-- Read the flags of a directive. -/
def readFlags (layout : Layout) : List Char → Layout × List Char
  | '-' :: rest => readFlags { layout with left := true } rest
  | '0' :: rest => readFlags { layout with zero := true } rest
  | '+' :: rest => readFlags { layout with plus := true } rest
  | ' ' :: rest => readFlags { layout with space := true } rest
  | '#' :: rest => readFlags { layout with alternate := true } rest
  | rest => (layout, rest)

/-- Fill a text to the width of a layout. -/
def fill (layout : Layout) (text : List Char) : List Char :=
  let blanks := List.replicate (layout.width - text.length) ' '
  if layout.left then text ++ blanks else blanks ++ text

/-- Fill a number to the width of a layout, where zeros may stand after its sign. -/
def fillNumber (layout : Layout) (zeros : Bool) (sign text : List Char) : List Char :=
  if layout.zero && zeros && !layout.left then
    sign ++ List.replicate (layout.width - sign.length - text.length) '0' ++ text
  else fill layout (sign ++ text)

/-- Fill digits with their sign to the width of a layout. The precision is the least number
of digits; where it is given no other zeros are added. -/
def fillDigits (layout : Layout) (sign digits : List Char) : List Char :=
  let digits := if layout.precision == some 0 && digits == ['0'] then [] else digits
  let digits := List.replicate (layout.precision.getD 1 - digits.length) '0' ++ digits
  fillNumber layout layout.precision.isNone sign digits

/-- The sign before a number. -/
def signText (layout : Layout) (negative : Bool) : List Char :=
  if negative then ['-'] else if layout.plus then ['+'] else if layout.space then [' '] else []

/-- A finite number in base sixteen with a power of two. -/
def inHex (mantissa : Nat) (exponent : Int) : List Char :=
  if mantissa = 0 then "0x0p+0".toList
  else
    let bits := Nat.log2 mantissa
    let fraction := (mantissa - Nat.pow 2 bits) * Nat.pow 2 (52 - bits)
    let digits := Nat.toDigits 16 fraction
    let digits := if fraction = 0 then [] else List.replicate (13 - digits.length) '0' ++ digits
    let digits := (digits.reverse.dropWhile (· == '0')).reverse
    let power := exponent + bits
    "0x1".toList ++ (if digits.isEmpty then [] else '.' :: digits) ++ 'p' ::
      (if power < 0 then '-' else '+') :: Nat.toDigits 10 power.natAbs

/-- A number in the form that a directive asks for. -/
def floatText (layout : Layout) (directive : Char) (number : Float) : List Char :=
  let change (text : List Char) := if directive.isUpper then text.map Char.toUpper else text
  match Decimal.Binary64.ofFloat number with
  | .nan => change (fill layout (signText layout false ++ "nan".toList))
  | .infinite negative => change (fill layout (signText layout negative ++ "inf".toList))
  | .finite negative mantissa exponent _ =>
    let (numerator, denominator) := Decimal.ratio mantissa exponent
    let places := layout.precision.getD 6
    let text :=
      match directive.toLower with
      | 'e' => Decimal.withExponent places numerator denominator layout.alternate
      | 'g' => Decimal.general places numerator denominator layout.alternate
      | 'a' => inHex mantissa exponent
      | _ => Decimal.withPlaces places numerator denominator layout.alternate
    change (fillNumber layout true (signText layout negative) text)

/-- Whether a character is a blank before a number. -/
def isBlank (char : Char) : Bool := char == ' ' || ('\t' ≤ char && char ≤ '\r')

/-- Whether a character is a digit in base sixteen. -/
def isHex (char : Char) : Bool :=
  char.isDigit || ('a' ≤ char && char ≤ 'f') || ('A' ≤ char && char ≤ 'F')

/-- The integer that a text starts with, and what follows it. A leading zero means base
eight, a further `x` before a digit base sixteen. -/
def integer? (text : List Char) : Option (Int × List Char) :=
  let text := text.dropWhile isBlank
  let (negative, text) : Bool × List Char :=
    match text with
    | '-' :: rest => (true, rest)
    | '+' :: rest => (false, rest)
    | _ => (false, text)
  let (base, isDigit, body) : Nat × (Char → Bool) × List Char :=
    match text with
    | '0' :: mark :: rest =>
      if (mark == 'x' || mark == 'X') && rest.head?.any isHex then (16, isHex, rest)
      else (8, isOctal, text)
    | '0' :: _ => (8, isOctal, text)
    | _ => (10, Char.isDigit, text)
  let digits := body.takeWhile isDigit
  let size : Int := valueIn base digits
  if digits.isEmpty then none
  else some (if negative then -size else size, body.drop digits.length)

/-- What a format has produced so far. -/
structure Progress where
  /-- What was written, the last character first. -/
  latest : List Char := []
  /-- What was said about arguments that are no numbers. -/
  warnings : List (List Char) := []
  arguments : List (List Char)
  /-- Whether a directive has taken an argument. -/
  consumed : Bool := false
  /-- Whether all output has ended. -/
  stopped : Bool := false
  /-- Why the format is none. -/
  malformed : Option (List Char) := none

namespace Progress

/-- Add to the output. -/
def write (progress : Progress) (text : List Char) : Progress :=
  { progress with latest := text.reverse ++ progress.latest }

/-- What was written. -/
def out (progress : Progress) : List Char := progress.latest.reverse

/-- Take the next argument, an empty one if there is none. -/
def take (progress : Progress) : List Char × Progress :=
  match progress.arguments with
  | [] => ([], { progress with consumed := true })
  | argument :: rest => (argument, { progress with arguments := rest, consumed := true })

/-- Note that an argument is no number as a whole. -/
def warn (progress : Progress) (argument : List Char) (problem : String) : Progress :=
  { progress with warnings := progress.warnings ++ [argument ++ ": ".toList ++ problem.toList] }

/-- The code of the character that follows a quote, for which the first octet stands. -/
def quotedCode? : List Char → Option Nat
  | '\x27' :: rest => some (code rest)
  | '\x22' :: rest => some (code rest)
  | _ => none
where
  code (rest : List Char) : Nat := (((Text.toOctets (rest.take 1))[0]?).getD 0).toNat

/-- Take the next argument as an integer between two bounds, given what stands for an
integer below them. -/
def takeNumber (progress : Progress) (least greatest below : Int) : Int × Progress :=
  let (argument, progress) := progress.take
  match quotedCode? argument with
  | some code => (code, progress)
  | none =>
    match integer? argument with
    | none =>
      (0, if argument.isEmpty then progress else progress.warn argument "expected numeric value")
    | some (value, rest) =>
      let bounded := if value < least then below else min value greatest
      (bounded,
        if !rest.isEmpty then progress.warn argument "not completely converted"
        else if value < least || greatest < value then
          progress.warn argument "Numerical result out of range"
        else progress)

/-- Take the next argument as an integer with a sign. -/
def takeInteger (progress : Progress) : Int × Progress :=
  let least : Int := -(UInt64.size / 2 : Nat)
  progress.takeNumber least (UInt64.size / 2 - 1 : Nat) least

/-- Take the next argument as a number that need not be whole. -/
def takeFloat (progress : Progress) : Float × Progress :=
  let (argument, progress) := progress.take
  match quotedCode? argument with
  | some code => (Float.ofNat code, progress)
  | none =>
    match Decimal.readNumber? argument with
    | some (value, rest) =>
      (value, if rest.isEmpty then progress else progress.warn argument "not completely converted")
    | none =>
      (0, if argument.isEmpty then progress else progress.warn argument "expected numeric value")

/-- Read the width or the precision of a directive, which may be the next argument. -/
def readSize (progress : Progress) : List Char → Option Int × Progress × List Char
  | '*' :: rest =>
    let (size, progress) := progress.takeInteger
    (some size, progress, rest)
  | text =>
    let digits := text.takeWhile Char.isDigit
    (if digits.isEmpty then none else some (valueIn 10 digits), progress, text.drop digits.length)

/-- Read the layout of a directive. A negative width fills on the other side, and a negative
precision is none. -/
def readLayout (progress : Progress) (text : List Char) : Layout × Progress × List Char :=
  let (layout, text) := readFlags {} text
  let (width, progress, text) := progress.readSize text
  let width := width.getD 0
  let layout := { layout with left := layout.left || width < 0, width := width.natAbs }
  match text with
  | '.' :: rest =>
    let (precision, progress, rest) := progress.readSize rest
    let precision := precision.getD 0
    ({ layout with precision := if precision < 0 then none else some precision.toNat }, progress, rest)
  | _ => (layout, progress, text)

/-- Show the next argument by a directive. -/
def direct (progress : Progress) (layout : Layout) (directive : Char) : Progress :=
  let cut (text : List Char) := (layout.precision.map text.take).getD text
  let unsigned (base : Nat) (mark : List Char) : Progress :=
    let (value, progress) :=
      progress.takeNumber (-(UInt64.size - 1 : Nat)) (UInt64.size - 1 : Nat) (UInt64.size - 1 : Nat)
    let digits := Nat.toDigits base (value % UInt64.size).toNat
    let digits := if directive == 'X' then digits.map Char.toUpper else digits
    progress.write
      (fillDigits layout (if layout.alternate && value != 0 then mark else []) digits)
  match directive with
  | 's' =>
    let (argument, progress) := progress.take
    progress.write (fill layout (cut argument))
  | 'b' =>
    let (argument, progress) := progress.take
    let (text, stops) := unescape argument.length argument
    { progress.write (fill layout (cut text)) with stopped := stops }
  | 'c' =>
    let (argument, progress) := progress.take
    progress.write (fill layout [argument.headD '\x00'])
  | 'o' => unsigned 8 ['0']
  | 'u' => unsigned 10 []
  | 'x' => unsigned 16 ['0', 'x']
  | 'X' => unsigned 16 ['0', 'X']
  | _ =>
    if "di".toList.contains directive then
      let (value, progress) := progress.takeInteger
      progress.write
        (fillDigits layout (signText layout (value < 0)) (Nat.toDigits 10 value.natAbs))
    else
      let (value, progress) := progress.takeFloat
      progress.write (floatText layout directive value)

/-- Give up a format. -/
def refuse (progress : Progress) (cause : List Char) : Progress :=
  { progress with stopped := true, malformed := some cause }

/-- Go through a format once. The fuel bounds the number of its characters. -/
def once (progress : Progress) : Nat → List Char → Progress
  | 0, _ => progress
  | _, [] => progress
  | fuel + 1, text =>
    if progress.stopped then progress
    else
      match text with
      | [] => progress
      | '\\' :: rest =>
        let (char, rest) := readEscape rest
        (progress.write [char]).once fuel rest
      | '%' :: '%' :: rest => (progress.write ['%']).once fuel rest
      | '%' :: rest =>
        let (layout, progress, rest) := progress.readLayout rest
        match rest with
        | directive :: rest =>
          if "sbcdiouxXaAeEfFgG".toList.contains directive then
            (progress.direct layout directive).once fuel rest
          else
            progress.refuse (text.take (text.length - rest.length) ++ ": invalid directive".toList)
        | [] => progress.refuse "missing format character".toList
      | char :: rest => (progress.write [char]).once fuel rest

/-- Go through a format again while arguments remain. -/
def repeatedly (progress : Progress) (format : List Char) : Nat → Progress
  | 0 => progress
  | count + 1 =>
    let next := { progress with consumed := false }.once format.length format
    if next.stopped || next.arguments.isEmpty || !next.consumed then next
    else next.repeatedly format count

end Progress

/-- What `printf` writes to the two streams. -/
def printf (format : List Char) (arguments : List (List Char)) : Progress :=
  { arguments : Progress }.repeatedly format (arguments.length + 1)

end Crosscheck.Script.Format
