import Crosscheck.Script.Format
import Crosscheck.Text.Regex.Reader
import Crosscheck.Utility.Stream

/-!
# Numbers

The utilities that count up and that evaluate expressions.
-/

namespace Crosscheck.Utility

/-- The text of a number in a number of digits at least, with its sign. -/
def signedDigits (width : Nat) (value : Int) : List Char :=
  let digits := Text.digits value.natAbs
  let zeros := List.replicate (width - digits.length) '0'
  if value < 0 then '-' :: zeros ++ digits else zeros ++ digits

namespace Sequence

/-- A decimal number: a whole number of steps of a size that has a number of places. -/
structure Number where
  value : Int
  places : Nat

/-- The number that a text writes. -/
def Number.read? (text : List Char) : Option Number := do
  let (negative, text) : Bool × List Char :=
    match text with
    | '-' :: rest => (true, rest)
    | '+' :: rest => (false, rest)
    | _ => (false, text)
  let whole := text.takeWhile Char.isDigit
  let rest := text.drop whole.length
  let (fraction, rest) : List Char × List Char :=
    match rest with
    | '.' :: rest => (rest.takeWhile Char.isDigit, rest.dropWhile Char.isDigit)
    | _ => ([], rest)
  if whole.isEmpty && fraction.isEmpty then none
  else
    let exponent ←
      match rest with
      | [] => some 0
      | mark :: digits => if mark == 'e' || mark == 'E' then number? digits else none
    let digits := whole ++ fraction ++ List.replicate (exponent - fraction.length) '0'
    let size : Int := Script.Format.valueIn 10 digits
    return { value := if negative then -size else size, places := fraction.length - exponent }

/-- The value of a number where there is a certain number of places. -/
def Number.scaled (number : Number) (places : Nat) : Int :=
  if number.places ≤ places then number.value * Nat.pow 10 (places - number.places)
  else number.value.tdiv (Nat.pow 10 (number.places - places))

/-- How numbers are written. -/
structure Layout where
  places : Nat
  /-- The number of characters at least. -/
  width : Nat := 0
  format : Option (List Char) := none
  separator : List Char := ['\n']

/-- The text of a value. -/
def Layout.plain (layout : Layout) (value : Int) : List Char :=
  let digits := signedDigits (layout.places + 1) value.natAbs
  let whole := digits.take (digits.length - layout.places)
  let text :=
    if layout.places = 0 then whole else whole ++ '.' :: digits.drop (digits.length - layout.places)
  let sign := if value < 0 then ['-'] else []
  sign ++ List.replicate (layout.width - text.length - sign.length) '0' ++ text

/-- The text of a value as it is written. -/
def Layout.render (layout : Layout) (value : Int) : List Char :=
  let text := layout.plain value
  match layout.format with
  | none => text
  | some format => (Script.Format.printf format [text]).out

/-- Write values from one on in steps. The fuel bounds the number of blocks. -/
def writeFrom (layout : Layout) (step last : Int) : Nat → Int → Utility Unit
  | 0, _ => pure ()
  | fuel + 1, first => do
    let values := (List.range 512).map fun (index : Nat) => first + step * index
    let values := values.filter fun value =>
      if 0 < step then value ≤ last else last ≤ value
    let next := first + step * 512
    let isLast := if 0 < step then last < next else next < last
    let text := layout.separator.intercalate (values.map layout.render)
    unless values.isEmpty do
      write (text ++ if isLast then ['\n'] else layout.separator)
    unless isLast do
      Activity.pause blockTime
      writeFrom layout step last fuel next

/-- Read an operand as a number. -/
def readNumber (text : List Char) : Utility Number := do
  match Number.read? text with
  | some number => return number
  | none => misuse ("invalid floating point argument: ".toList ++ quoted text)

/-- The arguments with a mark before the first that is a number with a sign. -/
def withMark : List (List Char) → List (List Char)
  | [] => []
  | argument :: rest =>
    match argument with
    | '-' :: char :: _ =>
      if char.isDigit || char == '.' then ['-', '-'] :: argument :: rest
      else if argument = ['-', 's'] || argument = ['-', 'f'] then
        argument :: (rest.take 1 ++ withMark (rest.drop 1))
      else argument :: withMark rest
    | _ => ['-', '-'] :: argument :: rest
termination_by arguments => arguments.length

/-- Write numbers in order. -/
def seq : Utility Nat := do
  let table : OptionTable := {
    letters := "f:s:w".toList
    names := [("format", 'f'), ("separator", 's'), ("equal-width", 'w')], mixed := false }
  let arguments ← arguments
  let arguments := if arguments.contains ['-', '-'] then arguments else withMark arguments
  let (options, operands) ← table.readAll (arguments.length + 1) arguments
  let (first, step, last) ←
    match operands with
    | [] => misuse "missing operand".toList
    | [last] => pure (['1'], ['1'], last)
    | [first, last] => pure (first, ['1'], last)
    | [first, step, last] => pure (first, step, last)
    | _ :: _ :: _ :: extra :: _ => misuse ("extra operand ".toList ++ quoted extra)
  let firstNumber ← readNumber first
  let stepNumber ← readNumber step
  let lastNumber ← readNumber last
  if stepNumber.value = 0 then misuse ("invalid Zero increment value: ".toList ++ quoted step)
  let places := max firstNumber.places stepNumber.places
  let plain : Layout := { places, separator := (value? options 's').getD ['\n'] }
  let start := firstNumber.scaled places
  let step := stepNumber.scaled places
  let final := lastNumber.scaled places
  let width :=
    if has options 'w' then max (plain.plain start).length (plain.plain final).length else 0
  let layout := { plain with width, format := value? options 'f' }
  if if 0 < step then start ≤ final else final ≤ start then
    writeFrom layout step final plenty start
  return 0

end Sequence

/-! ## Expressions -/

namespace Expression

/-- Why an expression has no value. -/
inductive Fault where
  | missingArgument (before : List Char)
  | unexpectedArgument (argument : List Char)
  | unclosed (before : List Char)
  | notClosed (argument : List Char)
  | unexpectedClosing
  | notInteger
  | divisionByZero
  | regex (fault : Text.Regex.Fault)

/-- The wording of why an expression has no value. -/
def Fault.message : Fault → List Char
  | .missingArgument before => "syntax error: missing argument after ".toList ++ quoted before
  | .unexpectedArgument argument => "syntax error: unexpected argument ".toList ++ quoted argument
  | .unclosed before => "syntax error: expecting ')' after ".toList ++ quoted before
  | .notClosed argument => "syntax error: expecting ')' instead of ".toList ++ quoted argument
  | .unexpectedClosing => "syntax error: unexpected ')'".toList
  | .notInteger => "non-integer argument".toList
  | .divisionByZero => "division by zero".toList
  | .regex fault => fault.message.toList

/-- The words ahead and the one before them. -/
structure Progress where
  words : List (List Char)
  before : List Char := []

/-- Reads and evaluates a part of an expression. -/
abbrev Reader := StateT Progress (Except Fault)

/-- Take the next word. -/
def take : Reader (List Char) := do
  let progress ← get
  match progress.words with
  | [] => throw (.missingArgument progress.before)
  | word :: words =>
    set { words, before := word : Progress }
    return word

/-- Take the next word if it is one of some. -/
def accept? (words : List String) : Reader (Option String) := do
  match (← get).words with
  | [] => return none
  | word :: _ =>
    match words.find? fun other => other.toList = word with
    | none => return none
    | some other =>
      discard take
      return some other

/-- Whether a value counts as false. -/
def isNull (value : List Char) : Bool :=
  match value with
  | '-' :: rest => !rest.isEmpty && rest.all (· == '0')
  | _ => value.all (· == '0')

/-- The integer that a value writes. -/
def integer? (value : List Char) : Option Int :=
  match value with
  | '-' :: digits => if digits.all Char.isDigit then (number? digits).map fun size => -size else none
  | digits => if digits.all Char.isDigit then (number? digits).map fun size => size else none

/-- The value of an integer. -/
def ofInteger (value : Int) : List Char := signedDigits 1 value

/-- The value of a condition. -/
def ofBool (holds : Bool) : List Char := if holds then ['1'] else ['0']

/-- Match the start of a text with an expression: what the first group matches, or the number
of characters that match. -/
def matchStart (evaluates : Bool) (text pattern : List Char) : Reader (List Char) := do
  if !evaluates then return ['0']
  match Text.Regex.read {} pattern with
  | .error fault => throw (.regex fault)
  | .ok (regex, groups) =>
    let subject : Text.Regex.Subject := { chars := text.toArray }
    match regex.matchAt? subject 0 with
    | none => return if 0 < groups then [] else ['0']
    | some found =>
      return if 0 < groups then found.group subject 1 else Text.digits (found.last - found.first)

/-- Compare two values, as numbers if both are. -/
def compareValues (left right : List Char) : Ordering :=
  match integer? left, integer? right with
  | some left, some right => compare left right
  | _, _ => compare (String.ofList left) (String.ofList right)

/-- Calculate with two values. -/
def calculate (operator : String) (left right : List Char) : Reader (List Char) := do
  match integer? left, integer? right with
  | some left, some right =>
    match operator with
    | "+" => return ofInteger (left + right)
    | "-" => return ofInteger (left - right)
    | "*" => return ofInteger (left * right)
    | _ =>
      if right = 0 then throw .divisionByZero
      return ofInteger (if operator = "/" then left.tdiv right else left.tmod right)
  | _, _ => throw .notInteger

/-- Whether an ordering is what an operator asks for. -/
def holds (operator : String) (ordering : Ordering) : Bool :=
  match operator with
  | "<" => ordering == .lt
  | "<=" => ordering != .gt
  | ">" => ordering == .gt
  | ">=" => ordering != .lt
  | "!=" => ordering != .eq
  | _ => ordering == .eq

/-- The operators from those that bind least to those that bind most. -/
def levels : List (List String) :=
  [["|"], ["&"], ["<", "<=", "=", "==", "!=", ">=", ">"], ["+", "-"], ["*", "/", "%"], [":"]]

/-- Apply an operator. -/
def apply (evaluates : Bool) (operator : String) (left right : List Char) : Reader (List Char) := do
  match operator with
  | "|" => return if !isNull left then left else if isNull right then ['0'] else right
  | "&" => return if isNull left || isNull right then ['0'] else left
  | ":" => matchStart evaluates left right
  | _ =>
    if (levels[2]?.getD []).contains operator then
      return ofBool (holds operator (compareValues left right))
    else if evaluates then calculate operator left right
    else return ['0']

mutual

/-- Read and evaluate operators from a level on. The fuel bounds the depth. -/
def readLevel (evaluates : Bool) : Nat → List (List String) → Reader (List Char)
  | 0, _ => return []
  | fuel + 1, [] => readPrimary evaluates fuel
  | fuel + 1, operators :: higher => do
    let left ← readLevel evaluates fuel higher
    readFurther evaluates fuel operators higher left

/-- Read the operators of a level that follow a value. -/
def readFurther (evaluates : Bool) :
    Nat → List String → List (List String) → List Char → Reader (List Char)
  | 0, _, _, left => return left
  | fuel + 1, operators, higher, left => do
    match ← accept? operators with
    | none => return left
    | some operator =>
      let isDecided := (operator == "|" && !isNull left) || (operator == "&" && isNull left)
      let right ← readLevel (evaluates && !isDecided) fuel higher
      let value ← apply evaluates operator left right
      readFurther evaluates fuel operators higher value

/-- Read and evaluate what is no operation on two values. -/
def readPrimary (evaluates : Bool) : Nat → Reader (List Char)
  | 0 => return []
  | fuel + 1 => do
    match ← accept? ["+", "length", "match", "index", "substr", "(", ")"] with
    | some "+" => take
    | some "length" => return Text.digits (← readPrimary evaluates fuel).length
    | some "match" =>
      let text ← readPrimary evaluates fuel
      let pattern ← readPrimary evaluates fuel
      matchStart evaluates text pattern
    | some "index" =>
      let text ← readPrimary evaluates fuel
      let chars ← readPrimary evaluates fuel
      return Text.digits (((text.findIdx? chars.contains).map (· + 1)).getD 0)
    | some "substr" =>
      let text ← readPrimary evaluates fuel
      let start ← readPrimary evaluates fuel
      let length ← readPrimary evaluates fuel
      match integer? start, integer? length with
      | some start, some length =>
        return if start ≤ 0 || length ≤ 0 then []
          else (text.drop (start.toNat - 1)).take length.toNat
      | _, _ => return []
    | some "(" =>
      let value ← readLevel evaluates fuel levels
      let progress ← get
      match progress.words with
      | [] => throw (.unclosed progress.before)
      | word :: _ =>
        if word ≠ [')'] then throw (.notClosed word)
        discard take
        return value
    | some _ => throw .unexpectedClosing
    | none => take

end

/-- Evaluate an expression. -/
def evaluate (words : List (List Char)) : Except Fault (List Char) := do
  let (value, progress) ← (readLevel true (words.length * 10 + 20) levels).run { words }
  match progress.words with
  | [] => return value
  | word :: _ => throw (.unexpectedArgument word)

/-- Evaluate the expression that the arguments write. -/
def expr : Utility Nat := do
  let words ← arguments
  let words := if words.head? = some ['-', '-'] then words.drop 1 else words
  if words.isEmpty then misuse "missing operand".toList 2
  match evaluate words with
  | .error fault => fail fault.message 2
  | .ok value =>
    write (value ++ ['\n'])
    return if isNull value then 1 else 0

end Expression
end Crosscheck.Utility
