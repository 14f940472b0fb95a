import Crosscheck.Process.Opening
import Crosscheck.Process.Program

/-!
# Utilities

A utility is a program that does one thing: it reads its options, goes through its inputs and
writes to its output. Where something is wrong it says so under its name and goes on or ends.
-/

namespace Crosscheck

/-- What a utility does until a value is known. -/
abbrev Utility := ReaderT Setting Activity

namespace Utility

/-- How often an input is read and how often something is repeated at most. -/
def plenty : Nat := 1000000000000

/-- What a utility takes at least to handle a block of its input, in nanoseconds. -/
def blockTime : Nat := 10000

/-- The program of a utility that answers its status. -/
def toProgram (utility : Utility Nat) : Program := fun setting =>
  utility.run setting fun status => .exit (.code (status % 256))

/-- End with a status. -/
def exit {α : Type} (status : Nat) : Utility α := Activity.exit (.code (status % 256))

/-- Go on as another process. -/
def become {α : Type} (process : Process) : Utility α := fun _ _ => process

/-- What the utility is called. -/
def name : Utility (List Char) := return (← read).words.headD []

/-- The arguments. -/
def arguments : Utility (List (List Char)) := return (← read).words.drop 1

/-! ## Output -/

/-- Write to a descriptor; the answer tells why that was not possible. -/
def writeTo (descriptor : Nat) (text : List Char) : Utility (Option FileError) := do
  match (← read).descriptors.lookup descriptor with
  | none => return if text.isEmpty then none else some .badDescriptor
  | some handle => Activity.write handle (Text.toOctets text)

/-- Say something about what went wrong. -/
def complain (about : List Char) : Utility Unit := do
  discard (writeTo 2 ((← name) ++ ": ".toList ++ about ++ ['\n']))

/-- Say what went wrong and end. -/
def fail {α : Type} (about : List Char) (status : Nat := 1) : Utility α := do
  complain about
  exit status

/-- Write to the output. -/
def write (text : List Char) : Utility Unit := do
  match ← writeTo 1 text with
  | none => pure ()
  | some error => fail ("write error: ".toList ++ error.reason.toList)

/-- A hint that follows a mistake in the arguments. -/
def hint : Utility Unit := do
  let name ← name
  discard (writeTo 2 ("Try '".toList ++ name ++ " --help' for more information.\n".toList))

/-- Say what is wrong with the arguments, with a hint, and end. -/
def misuse {α : Type} (about : List Char) (status : Nat := 1) : Utility α := do
  complain about
  hint
  exit status

/-- A text as it is quoted in messages. -/
def quoted (text : List Char) : List Char := '\x27' :: text ++ ['\x27']

/-! ## Options -/

/-- An option with its argument, which is empty if it has none. -/
abbrev OptionValue := Char × List Char

/-- The options that a utility knows. -/
structure OptionTable where
  /-- The letters; a colon follows that of an option with an argument. -/
  letters : List Char
  /-- The long names of letters. -/
  names : List (String × Char) := []
  /-- The status for a mistake. -/
  fault : Nat := 1
  /-- Whether options may follow other arguments. -/
  mixed : Bool := true
  /-- What is said after a mistake in place of the usual hint. -/
  usage : Option (List Char) := none

namespace OptionTable

/-- Say what is wrong with the options and end. -/
def refuse {α : Type} (table : OptionTable) (about : List Char) : Utility α := do
  match table.usage with
  | none => misuse about table.fault
  | some usage =>
    complain about
    discard (writeTo 2 usage)
    exit table.fault

/-- Whether a letter is known, and whether it has an argument. -/
def kind? (table : OptionTable) (letter : Char) : Option Bool :=
  match table.letters.dropWhile (· != letter) with
  | [] => none
  | _ :: rest => if letter == ':' then none else some (rest.head? == some ':')

/-- The letter of a long name, which may be cut short. -/
def letter? (table : OptionTable) (name : String) : Option Char :=
  match table.names.lookup name with
  | some letter => some letter
  | none =>
    let matching := table.names.filter fun (other, _) => name.toList.isPrefixOf other.toList
    match (matching.map Prod.snd).eraseDups with
    | [letter] => some letter
    | _ => none

/-- Read the letters of an argument. -/
def readLetters (table : OptionTable) :
    List Char → List (List Char) → Utility (List OptionValue × List (List Char))
  | [], arguments => return ([], arguments)
  | letter :: rest, arguments => do
    match table.kind? letter with
    | none => table.refuse ("invalid option -- ".toList ++ quoted [letter])
    | some true =>
      if !rest.isEmpty then return ([(letter, rest)], arguments)
      match arguments with
      | argument :: arguments => return ([(letter, argument)], arguments)
      | [] => table.refuse ("option requires an argument -- ".toList ++ quoted [letter])
    | some false =>
      let (options, arguments) ← table.readLetters rest arguments
      return ((letter, []) :: options, arguments)

/-- Read an argument that starts with two hyphens. -/
def readName (table : OptionTable) (text : List Char) (arguments : List (List Char)) :
    Utility (OptionValue × List (List Char)) := do
  let name := text.takeWhile (· != '=')
  let value := text.drop name.length
  match table.letter? (String.ofList name) with
  | none => table.refuse ("unrecognized option ".toList ++ quoted ("--".toList ++ text))
  | some letter =>
    if table.kind? letter == some true then
      match value, arguments with
      | _ :: value, _ => return ((letter, value), arguments)
      | [], argument :: arguments => return ((letter, argument), arguments)
      | [], [] =>
        table.refuse
          ("option ".toList ++ quoted ("--".toList ++ name) ++ " requires an argument".toList)
    else if value.isEmpty then return ((letter, []), arguments)
    else
      table.refuse ("option ".toList ++ quoted ("--".toList ++ name) ++
        " doesn't allow an argument".toList)

/-- Read the options among arguments. The fuel bounds the number of arguments. -/
def readAll (table : OptionTable) :
    Nat → List (List Char) → Utility (List OptionValue × List (List Char))
  | 0, arguments => return ([], arguments)
  | _, [] => return ([], [])
  | _, ['-', '-'] :: arguments => return ([], arguments)
  | fuel + 1, ('-' :: '-' :: text) :: arguments => do
    let (option, arguments) ← table.readName text arguments
    let (options, operands) ← table.readAll fuel arguments
    return (option :: options, operands)
  | fuel + 1, ('-' :: letter :: letters) :: arguments => do
    let (options, arguments) ← table.readLetters (letter :: letters) arguments
    let (more, operands) ← table.readAll fuel arguments
    return (options ++ more, operands)
  | fuel + 1, operand :: arguments => do
    if !table.mixed then return ([], operand :: arguments)
    let (options, operands) ← table.readAll fuel arguments
    return (options, operand :: operands)

/-- Read the options among the arguments. -/
def read (table : OptionTable) : Utility (List OptionValue × List (List Char)) := do
  let arguments ← arguments
  table.readAll (arguments.length + 1) arguments

end OptionTable

/-- Whether an option of a letter is given. -/
def has (options : List OptionValue) (letter : Char) : Bool :=
  options.any fun (other, _) => other == letter

/-- The argument of the last option of a letter. -/
def value? (options : List OptionValue) (letter : Char) : Option (List Char) :=
  (options.reverse.find? fun (other, _) => other == letter).map Prod.snd

/-! ## Input -/

/-- Open an operand; a hyphen stands for the input. -/
def openOperand (path : List Char) : Utility (Except FileError Handle) := do
  let setting ← read
  if path = ['-'] then
    match setting.descriptors.lookup 0 with
    | some handle => return .ok handle
    | none => return .error .badDescriptor
  Activity.openPath setting.directory setting.descriptors .read path

/-- Have no more use for what an operand was opened as. -/
def closeOperand (handle : Handle) : Utility Unit := do
  unless (← read).descriptors.any fun (_, other) => other = handle do Activity.release [handle]

/-- Read all that can be read, given what was read before, latest first. The fuel bounds the
number of blocks. -/
def drain (handle : Handle) : Nat → List (List UInt8) → Utility (Except FileError (List UInt8))
  | 0, blocks => return .ok blocks.reverse.flatten
  | fuel + 1, blocks => do
    match ← Activity.readSome handle 65536 with
    | .ok [] => return .ok blocks.reverse.flatten
    | .ok octets =>
      Activity.pause blockTime
      drain handle fuel (octets :: blocks)
    | .error error => return .error error

/-- The text of an operand. -/
def readOperand (path : List Char) : Utility (Except FileError (List Char)) := do
  match ← openOperand path with
  | .error error => return .error error
  | .ok handle =>
    let octets ← drain handle plenty []
    closeOperand handle
    return octets.map Text.ofOctets

/-- Say why an operand could not be read. -/
def complainOf (path : List Char) (error : FileError) : Utility Unit :=
  complain (path ++ ": ".toList ++ error.reason.toList)

/-- The texts of operands with their paths; what cannot be read is reported. Without any
the input is read. The answer tells whether all could be read. -/
def readOperands : List (List Char) → Utility (List (List Char × List Char) × Bool)
  | [] => return ([], true)
  | path :: others => do
    match ← readOperand path with
    | .ok text =>
      let (texts, complete) ← readOperands others
      return ((path, text) :: texts, complete)
    | .error error =>
      complainOf path error
      let (texts, _) ← readOperands others
      return (texts, false)

/-- The operands to be read, which are the input if none are given. -/
def inputs (operands : List (List Char)) : List (List Char) :=
  if operands.isEmpty then [['-']] else operands

/-- The text of all operands together; what cannot be read is reported. -/
def readAll (operands : List (List Char)) : Utility (List Char × Bool) := do
  let (texts, complete) ← readOperands (inputs operands)
  return (texts.flatMap Prod.snd, complete)

/-- The number that digits write. -/
def number? (text : List Char) : Option Nat :=
  if text.isEmpty then none else (String.ofList text).toNat?

/-- A text without the terminator of its line. -/
def withoutTerminator (line : List Char) : List Char :=
  if line.getLast? == some '\n' then line.dropLast else line

/-- The lines of a text without their terminators. -/
def plainLines (text : List Char) : List (List Char) := (Text.lines text).map withoutTerminator

/-- Lines with their terminators. -/
def unlines (lines : List (List Char)) : List Char := lines.flatMap (· ++ ['\n'])

end Utility
end Crosscheck
