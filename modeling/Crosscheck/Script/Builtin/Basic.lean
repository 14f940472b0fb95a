import Crosscheck.Script.Job

/-!
# Commands of the script itself

Some commands are done by the script and not by programs. Those that are special differ from
the others in that a mistake in them ends the script, and that assignments before them
remain.
-/

namespace Crosscheck.Script

/-- A command that the script itself does: given its arguments, its status. -/
structure Builtin where
  isSpecial : Bool := false
  /-- Whether arguments may be assignments, which are expanded as such. -/
  assigns : Bool := false
  run : Interpreter → Manner → List (List Char) → Shell Nat

namespace Builtin

/-- The names of the commands that are not special. -/
def regularNames : List String :=
  ["[", "alias", "bg", "cd", "chdir", "command", "echo", "false", "fg", "getopts", "hash", "jobs", "kill",
    "printf", "pwd", "read", "test", "true", "type", "ulimit", "umask", "unalias", "wait"]

/-- Whether the commands of a name are done by the script. -/
def isName (name : String) : Bool :=
  Reader.specialNames.contains name || regularNames.contains name

/-! ## Arguments -/

/-- Whether a character is a blank between the parts of an argument. -/
def isSpace (char : Char) : Bool := char == ' ' || ('\t' ≤ char && char ≤ '\x0d')

/-- The number that an argument is. -/
def number? (text : List Char) : Option Nat := do
  let text := text.dropWhile isSpace
  let body := if text.head? == some '+' then text.drop 1 else text
  let digits := body.takeWhile Char.isDigit
  let isZero := text.head? == some '-' && !(text.drop 1).isEmpty && (text.drop 1).all (· == '0')
  if isZero then return 0
  if digits.isEmpty || !(body.drop digits.length).all isSpace then none
  let value := Format.valueIn 10 digits
  if value < 2147483648 then return value else none

/-- The number that an argument has to be. -/
def number (text : List Char) : Shell Nat :=
  match number? text with
  | some value => return value
  | none => Shell.giveUp ("Illegal number: ".toList ++ text)

/-- The letters of an option with those after it, and the arguments that are left. -/
def readLetters (allowed : List Char) :
    List Char → List (List Char) → Shell (List (Char × List Char) × List (List Char))
  | [], arguments => return ([], arguments)
  | letter :: rest, arguments => do
    let found := allowed.dropWhile (· != letter)
    if letter == ':' || found.isEmpty then Shell.giveUp ("Illegal option -".toList ++ [letter])
    if found[1]? == some ':' then
      if !rest.isEmpty then return ([(letter, rest)], arguments)
      match arguments with
      | argument :: arguments => return ([(letter, argument)], arguments)
      | [] => Shell.giveUp ("No arg for -".toList ++ letter :: " option".toList)
    else
      let (options, arguments) ← readLetters allowed rest arguments
      return ((letter, []) :: options, arguments)

/-- Read the options before the other arguments. A colon follows the letters of those that
have an argument. The fuel bounds the number of arguments. -/
def readOptions (allowed : List Char) :
    Nat → List (List Char) → Shell (List (Char × List Char) × List (List Char))
  | 0, arguments => return ([], arguments)
  | _, ['-', '-'] :: arguments => return ([], arguments)
  | fuel + 1, arguments =>
    match arguments with
    | ('-' :: letter :: letters) :: others => do
      let (options, others) ← readLetters allowed (letter :: letters) others
      let (more, others) ← readOptions allowed fuel others
      return (options ++ more, others)
    | _ => return ([], arguments)

/-- Read the options before the other arguments. -/
def options (allowed : String) (arguments : List (List Char)) :
    Shell (List (Char × List Char) × List (List Char)) :=
  readOptions allowed.toList (arguments.length + 1) arguments

/-- The arguments of a command without options. -/
def operands (arguments : List (List Char)) : Shell (List (List Char)) :=
  return (← options "" arguments).2

/-- The name before the first equals sign of an argument, and the value after it. -/
def divideAssignment (argument : List Char) : String × Option (List Char) :=
  let name := argument.takeWhile (· != '=')
  (String.ofList name,
    if name.length < argument.length then some (argument.drop (name.length + 1)) else none)

/-- Refuse the name of a variable that is none. -/
def checkName (name : String) : Shell Unit := do
  unless Reader.isName name.toList do Shell.giveUp (name ++ ": bad variable name").toList

/-! ## Output -/

/-- Write what a command has to say. -/
def say (text : List Char) : Shell Nat := do
  match ← Shell.write 1 text with
  | none => return 0
  | some _ =>
    let name := (← get).running.getD []
    Shell.complain (name ++ ": I/O error".toList)
    return 1

/-- A text up to its first single quote or to its first other character. -/
def divideQuotes (text : List Char) : List Char × List Char × List Char :=
  let plain := text.takeWhile (· != '\x27')
  let quotes := (text.drop plain.length).takeWhile (· == '\x27')
  (plain, quotes, text.drop (plain.length + quotes.length))

/-- A text in quotes, so that a script reads it as it is. The fuel bounds the number of its
parts. -/
def quoteWithin : Nat → List Char → List Char
  | 0, _ => []
  | fuel + 1, text =>
    let (plain, quotes, rest) := divideQuotes text
    let shown := '\x27' :: plain ++ ['\x27']
    let shown := if quotes.isEmpty then shown else shown ++ '\x22' :: quotes ++ ['\x22']
    if rest.isEmpty then shown else shown ++ quoteWithin fuel rest

/-- A text in quotes, so that a script reads it as it is. -/
def quote (text : List Char) : List Char := quoteWithin (text.length + 1) text

/-- The order of names. -/
def precedes (left right : String) : Bool :=
  Pathname.precedes (Text.ofString left) (Text.ofString right)

/-! ## Signals -/

/-- The name of a signal; the number zero is that of the end of the script. -/
def signalName (number : Nat) : String :=
  if number = 0 then "EXIT"
  else if number = 16 then "16"
  else if number = 29 then "IO"
  else if number < 32 then ((Signal.names.find? fun (_, other) => other = number).map Prod.fst).getD ""
  else if number = 34 then "RTMIN"
  else if number < 34 then toString number
  else if number = 64 then "RTMAX"
  else if number < 50 then s!"RTMIN+{number - 34}"
  else s!"RTMAX-{64 - number}"

/-- The signal that an argument means, from a least number on. -/
def signal? (least : Nat) (text : List Char) : Option Nat :=
  if !text.isEmpty && text.all Char.isDigit then
    let number := Format.valueIn 10 text
    if number < Signal.bound then some number else none
  else
    let name := String.ofList (text.map Char.toUpper)
    (List.range Signal.bound).find? fun number => least ≤ number && signalName number = name

end Builtin
end Crosscheck.Script
