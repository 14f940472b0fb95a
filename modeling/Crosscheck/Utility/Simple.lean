import Crosscheck.Duration
import Crosscheck.Script.Builtin.Location
import Crosscheck.Script.Builtin.Signals
import Crosscheck.Script.Condition
import Crosscheck.Utility.Basic

/-!
# Simple utilities

Those that only look at their arguments and at their setting.
-/

namespace Crosscheck.Utility

/-- Replace the escapes of a text, and whether the output ends with it. -/
def unescape (text : List Char) : List Char × Bool := Script.Format.unescape text.length text

/-- The options before the texts of `echo`: whether the line ends and whether escapes are
replaced. -/
def echoOptions : Bool → Bool → List (List Char) → Bool × Bool × List (List Char)
  | newline, escapes, ('-' :: letter :: letters) :: rest =>
    let letters := letter :: letters
    if letters.all "neE".toList.contains then
      let escapes := letters.foldl (fun escapes letter =>
        if letter == 'e' then true else if letter == 'E' then false else escapes) escapes
      echoOptions (newline && !letters.contains 'n') escapes rest
    else (newline, escapes, ('-' :: letters) :: rest)
  | newline, escapes, arguments => (newline, escapes, arguments)

/-- Write the arguments. -/
def echo : Utility Nat := do
  let (newline, escapes, arguments) := echoOptions true false (← arguments)
  let text := [' '].intercalate arguments
  let (text, stops) := if escapes then unescape text else (text, false)
  write (if newline && !stops then text ++ ['\n'] else text)
  return 0

/-- Write the arguments as a format says. -/
def printf : Utility Nat := do
  match ← arguments with
  | [] => misuse "missing operand".toList
  | format :: arguments =>
    let progress := Script.Format.printf format arguments
    write progress.out
    progress.warnings.forM fun warning => do
      let argument := warning.takeWhile (· != ':')
      let problem := String.ofList (warning.drop (argument.length + 2))
      let problem := if problem = "expected numeric value" then "expected a numeric value"
        else if problem = "not completely converted" then "value not completely converted"
        else problem
      complain (quoted argument ++ (": " ++ problem).toList)
    match progress.malformed with
    | some cause =>
      complain cause
      return 1
    | none => return if progress.warnings.isEmpty then 0 else 1

/-- Decide a condition. -/
def decide (words : List (List Char)) : Utility Nat := do
  match Script.Condition.decide (← Activity.look) (← read).directory words with
  | .ok true => return 0
  | .ok false => return 1
  | .error message => fail message 2

/-- Decide the condition that the arguments express. -/
def test : Utility Nat := do decide (← arguments)

/-- Decide the condition that the arguments express before a closing bracket. -/
def bracket : Utility Nat := do
  let words ← arguments
  if words.getLast? == some [']'] then decide words.dropLast
  else fail "missing ']'".toList 2

/-- Show the directory. -/
def pwd : Utility Nat := do
  write (Script.Builtin.pathOfPlace (← read).directory ++ ['\n'])
  return 0

/-- The nanoseconds of a span of time: a number, which may have decimals, and a unit. -/
def span? (text : List Char) : Option Nat :=
  let whole := text.takeWhile Char.isDigit
  let rest := text.drop whole.length
  let (decimals, unit) : List Char × List Char :=
    match rest with
    | '.' :: rest => (rest.takeWhile Char.isDigit, rest.dropWhile Char.isDigit)
    | _ => ([], rest)
  let seconds? : Option Nat :=
    match unit with
    | [] => some 1
    | ['s'] => some 1
    | ['m'] => some 60
    | ['h'] => some 3600
    | ['d'] => some 86400
    | _ => none
  if text = "inf".toList || text = "infinity".toList then some (Duration.ofSeconds plenty)
  else if whole.isEmpty && decimals.isEmpty then none
  else
    seconds?.map fun seconds =>
      Duration.ofSeconds (seconds * Script.Format.valueIn 10 (whole ++ decimals)) /
        Nat.pow 10 decimals.length

/-- Let time pass. -/
def sleep : Utility Nat := do
  let (_, operands) ← OptionTable.read { letters := [] }
  if operands.isEmpty then misuse "missing operand".toList
  let wrong := operands.filter fun operand => (span? operand).isNone
  unless wrong.isEmpty do
    wrong.forM fun operand => complain ("invalid time interval ".toList ++ quoted operand)
    hint
    exit 1
  Activity.pause ((operands.filterMap span?).foldl (· + ·) 0)
  return 0

/-- Write a line again and again. The fuel bounds the number of blocks. -/
def repeatBlock (block : List Char) : Nat → Utility Unit
  | 0 => pure ()
  | fuel + 1 => do
    write block
    Activity.pause blockTime
    repeatBlock block fuel

/-- Write the arguments again and again. -/
def yes : Utility Nat := do
  let arguments ← arguments
  let line := (if arguments.isEmpty then ['y'] else [' '].intercalate arguments) ++ ['\n']
  repeatBlock (List.replicate (8192 / line.length + 1) line).flatten plenty
  return 0

/-- The signal that an argument of `kill` means. -/
def signal? (text : List Char) : Option Nat :=
  let upper := text.map Char.toUpper
  let bare := if "SIG".toList.isPrefixOf upper then upper.drop 3 else upper
  Script.Builtin.signal? 1 bare

/-- Send a signal to processes. -/
def sendAll (signal : Nat) : List (List Char) → Utility Nat
  | [] => return 0
  | text :: others => do
    let status ←
      match number? text with
      | none => do
        complain ("failed to parse argument: ".toList ++ quoted text)
        pure 1
      | some receiver => do
        if ← Activity.send signal receiver then pure 0
        else
          complain ("(".toList ++ text ++ ") - No such process".toList)
          pure 1
    return max status (← sendAll signal others)

/-- Send a signal. -/
def kill : Utility Nat := do
  match ← arguments with
  | ['-', 's'] :: name :: others => sendNamed name others
  | ['-', '-'] :: others => sendAll Signal.terminate others
  | ('-' :: name) :: others => sendNamed name others
  | others => sendAll Signal.terminate others
where
  sendNamed (name : List Char) (others : List (List Char)) : Utility Nat := do
    match signal? name with
    | some signal => sendAll signal others
    | none => misuse ("unknown signal ".toList ++ name)

/-- Show the variables of the environment. -/
def showEnvironment : Utility Nat := do
  let environment := (← read).environment
  match ← arguments with
  | [] =>
    write (unlines (environment.map fun (name, value) => Text.ofString name ++ '=' :: value))
    return 0
  | names =>
    let values := names.map fun name => environment.lookup (String.ofList name)
    write (unlines (values.filterMap id))
    return if values.all Option.isSome then 0 else 1

/-- Show a text that never changes. -/
def say (text : String) : Utility Nat := do
  write (text ++ "\n").toList
  return 0

end Crosscheck.Utility
