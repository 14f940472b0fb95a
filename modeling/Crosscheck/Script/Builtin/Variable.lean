import Crosscheck.Script.Builtin.Basic

/-!
# Variables

The commands that change what variables and parameters are, and which options are set.
-/

namespace Crosscheck.Script.Builtin

/-- A command that gives a variable its present value. -/
def definition (start : String) (binding : Binding) : List Char :=
  start.toList ++ binding.name.toList ++
    (match binding.value with
    | some value => '=' :: quote value
    | none => []) ++ ['\n']

/-- Commands that give variables their present values, in order. -/
def definitions (start : String) (bindings : List Binding) : List Char :=
  (bindings.mergeSort fun left right => precedes left.name right.name).flatMap (definition start)

/-- Change a property of variables, which may be given values by the way. -/
def declare (start : String) (selects : Binding → Bool) (mark : Binding → Binding)
    (arguments : List (List Char)) : Shell Nat := do
  let (options, arguments) ← options "p" arguments
  if !options.isEmpty || arguments.isEmpty then
    return ← say (definitions start ((← get).bindings.filter selects))
  arguments.forM fun argument => do
    let (name, value) := divideAssignment argument
    checkName name
    match value with
    | some value => Shell.assign name value
    | none => pure ()
    modify fun state =>
      state.bind name (some (mark ((state.binding? name).getD { name, value := none })))
  return 0

/-- Give variables to programs. -/
def exportNames (_ : Interpreter) (_ : Manner) (arguments : List (List Char)) : Shell Nat :=
  declare "export " Binding.exported (fun binding => { binding with exported := true }) arguments

/-- Make variables keep their values. -/
def readOnly (_ : Interpreter) (_ : Manner) (arguments : List (List Char)) : Shell Nat :=
  declare "readonly " Binding.isReadOnly (fun binding => { binding with isReadOnly := true })
    arguments

/-- Keep what a variable is, to be restored when the running function ends. -/
def hide (name : String) : Shell Unit := do
  let state ← get
  match state.hidden with
  | none => Shell.giveUp "not in a function".toList
  | some hidden =>
    set { state with hidden := some (⟨name, state.binding? name⟩ :: hidden) }

/-- Make variables local to the running function. -/
def localNames (_ : Interpreter) (_ : Manner) (arguments : List (List Char)) : Shell Nat := do
  if (← get).hidden.isNone then Shell.giveUp "not in a function".toList
  arguments.forM fun argument => do
    unless argument = ['-'] do
      let (name, value) := divideAssignment argument
      checkName name
      hide name
      match value with
      | some value => Shell.assign name value
      | none => pure ()
  return 0

/-- Take variables or functions away. -/
def unset (_ : Interpreter) (_ : Manner) (arguments : List (List Char)) : Shell Nat := do
  let (options, names) ← options "vf" arguments
  let last := (options.getLast?.map Prod.fst).getD ' '
  names.forM fun name => do
    let name := String.ofList name
    if last == 'f' then
      modify fun state =>
        { state with functions := state.functions.filter fun (other, _) => other ≠ name }
    else
      checkName name
      Shell.unassign name
  return 0

/-- Take arguments away from the front. -/
def shift (_ : Interpreter) (_ : Manner) (arguments : List (List Char)) : Shell Nat := do
  let count ←
    match arguments with
    | [] => pure 1
    | argument :: _ => number argument
  let state ← get
  if state.arguments.length < count then Shell.giveUp "can't shift that many".toList
  set (state.withArguments (state.arguments.drop count))
  return 0

/-! ## Options -/

/-- What the options are. -/
def optionTable (state : State) : List Char :=
  ("Current option settings\n" ++ String.join (State.optionNames.map fun (name, letter) =>
    name ++ String.ofList (List.replicate (16 - name.length) ' ') ++
      (if state.has letter then "on\n" else "off\n"))).toList

/-- Commands that set the options as they are. -/
def optionCommands (state : State) : List Char :=
  (String.join (State.optionNames.map fun (name, letter) =>
    (if state.has letter then "set -o " else "set +o ") ++ name ++ "\n")).toList

/-- Set or clear the options of some letters; the answer is the arguments that are left. -/
def setLetters (value : Bool) : List Char → List (List Char) → Shell (List (List Char))
  | [], arguments => return arguments
  | 'o' :: letters, arguments => do
    match arguments with
    | [] =>
      let state ← get
      discard (say (if value then optionTable state else optionCommands state))
      setLetters value letters []
    | name :: arguments =>
      match State.optionNames.lookup (String.ofList name) with
      | some letter => modify fun state => state.setOption letter value
      | none => Shell.giveUp ("Illegal option -o ".toList ++ name)
      setLetters value letters arguments
  | letter :: letters, arguments => do
    let isKnown := State.optionNames.any fun (name, other) =>
      other == letter && name != "nolog" && name != "debug"
    unless isKnown do Shell.giveUp ("Illegal option -".toList ++ [letter])
    modify fun state => state.setOption letter value
    setLetters value letters arguments

/-- Set options, and replace the arguments if there are others. The fuel bounds the number of
arguments. -/
def setAll : Nat → List (List Char) → Shell Unit
  | 0, _ => pure ()
  | fuel + 1, arguments =>
    let replace (arguments : List (List Char)) : Shell Unit :=
      modify fun state => state.withArguments arguments
    match arguments with
    | [] => pure ()
    | ['-'] :: others => do
      modify fun state => (state.setOption 'x' false).setOption 'v' false
      unless others.isEmpty do replace others
    | ['-', '-'] :: others => replace others
    | ('-' :: letters) :: others => do setAll fuel (← setLetters true letters others)
    | ('+' :: letters) :: others => do setAll fuel (← setLetters false letters others)
    | arguments => replace arguments

/-- Set options and arguments, or show the variables. -/
def setOptions (_ : Interpreter) (_ : Manner) (arguments : List (List Char)) : Shell Nat := do
  if arguments.isEmpty then
    return ← say (definitions "" ((← get).bindings.filter fun binding => binding.value.isSome))
  setAll (arguments.length + 1) arguments
  return 0

/-! ## Searching arguments for options -/

/-- What a search for an option has found. -/
structure OptionSearch where
  /-- The option, a question mark if there is none or a mistake. -/
  letter : Char := '?'
  /-- What becomes of the variable for the argument of the option. -/
  argument : Option (List Char) := none
  /-- The number of the argument that is searched next, and how many characters of the one
  before have been. -/
  index : Nat
  offset : Nat := 0
  /-- Whether the options have ended. -/
  isEnded : Bool := false
  /-- What is wrong. -/
  message : Option (List Char) := none

/-- The option at the front of letters, given those after it and how many characters stand
before those. -/
def readOption (allowed : List Char) (arguments : List (List Char)) (index offset : Nat)
    (letter : Char) (rest : List Char) : OptionSearch :=
  let isQuiet := allowed.head? == some ':'
  let found := allowed.dropWhile (· != letter)
  if letter == ':' || found.isEmpty then
    if isQuiet then { argument := some [letter], index, offset }
    else { message := some ("Illegal option -".toList ++ [letter]), index, offset }
  else if found[1]? == some ':' then
    if !rest.isEmpty then { letter, argument := some rest, index }
    else
      match arguments[index - 1]? with
      | some argument => { letter, argument := some argument, index := index + 1 }
      | none =>
        if isQuiet then { letter := ':', argument := some [letter], index, offset }
        else { message := some ("No arg for -".toList ++ letter :: " option".toList), index, offset }
  else { letter, argument := some [], index, offset }

/-- The next option among arguments. -/
def nextOption (allowed : List Char) (arguments : List (List Char)) (index offset : Nat) :
    OptionSearch :=
  let current := if index ≤ 1 || offset = 0 then [] else (arguments[index - 2]?.getD []).drop offset
  match current with
  | letter :: rest => readOption allowed arguments index (offset + 1) letter rest
  | [] =>
    match arguments[index - 1]? with
    | some ['-', '-'] => { index := index + 1, isEnded := true }
    | some ('-' :: letter :: rest) => readOption allowed arguments (index + 1) 2 letter rest
    | _ => { index, isEnded := true }

/-- Search arguments for their next option. -/
def searchOptions (_ : Interpreter) (_ : Manner) (arguments : List (List Char)) : Shell Nat := do
  match arguments with
  | allowed :: name :: given => do
    let state ← get
    let searched := if given.isEmpty then state.arguments else given
    let found := nextOption allowed searched state.optionIndex state.optionOffset
    match found.message with
    | some message =>
      Shell.writeError (message ++ ['\n'])
      Shell.unassign "OPTARG"
    | none =>
      match found.argument with
      | some argument => Shell.assign "OPTARG" argument
      | none => pure ()
    Shell.assign "OPTIND" (Text.digits found.index)
    checkName (String.ofList name)
    Shell.assign (String.ofList name) [found.letter]
    modify fun state => { state with optionIndex := found.index, optionOffset := found.offset }
    return if found.isEnded then 1 else 0
  | _ => Shell.giveUp "Usage: getopts optstring var [arg...]".toList

end Crosscheck.Script.Builtin
