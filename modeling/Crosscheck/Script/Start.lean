import Crosscheck.Script.Evaluation

/-!
# Starting scripts

A script is given as an argument, in a file or on the input. What comes on the input is read
as it comes: each line of commands is evaluated before the next one is waited for.
-/

namespace Crosscheck.Script

/-- What the arguments of a shell ask for. -/
structure Options where
  /-- Whether the first of the other arguments is the script. -/
  isGiven : Bool := false
  letters : List Char := []
  operands : List (List Char) := []

namespace Options

/-- Why arguments make no sense. -/
abbrev Fault := List Char

/-- Read the letters of an argument. -/
def readLetters (value : Bool) (options : Options) :
    List Char → List (List Char) → Except Fault (Options × List (List Char))
  | [], arguments => .ok (options, arguments)
  | letter :: letters, arguments =>
    let change (letter : Char) : Options :=
      let others := options.letters.filter (· != letter)
      { options with letters := if value then letter :: others else others }
    if letter == 'c' then readLetters value { options with isGiven := true } letters arguments
    else if letter == 'l' then readLetters value options letters arguments
    else if letter == 'o' then
      match arguments with
      | [] => readLetters value options letters []
      | name :: arguments =>
        match State.optionNames.lookup (String.ofList name) with
        | some letter => readLetters value (change letter) letters arguments
        | none => .error ("Illegal option -o ".toList ++ name)
    else if State.optionNames.any fun (_, other) => other == letter && other != 'd' then
      readLetters value (change letter) letters arguments
    else .error ("Illegal option -".toList ++ [letter])

/-- Read the arguments of a shell. The fuel bounds their number. -/
def readAll : Nat → Options → List (List Char) → Except Fault Options
  | 0, options, arguments => .ok { options with operands := arguments }
  | fuel + 1, options, arguments =>
    match arguments with
    | ['-'] :: others => .ok { options with operands := others }
    | ['-', '-'] :: others => .ok { options with operands := others }
    | ('-' :: letters) :: others => do
      let (options, others) ← readLetters true options letters others
      readAll fuel options others
    | ('+' :: letters) :: others => do
      let (options, others) ← readLetters false options letters others
      readAll fuel options others
    | arguments => .ok { options with operands := arguments }

/-- Read the arguments of a shell. -/
def read (arguments : List (List Char)) : Except Fault Options :=
  readAll (arguments.length + 1) {} arguments

end Options

namespace Interpreter

/-- Whether a text may have to go on for its next line of commands to be known. -/
def mayGoOn (source : Source) : Except Misreading (Option Command × Source) → Bool
  | .error misreading => misreading.fault.isAtEnd
  | .ok (_, after) => after.isAtEnd || (after.rest.isEmpty && source.rest.getLast? != some '\n')

/-- Evaluate what comes on the input line by line. The fuel bounds the number of lines and of
parts that come. -/
def runInput (interpreter : Interpreter) : Nat → Source → Shell Unit
  | 0, _ => pure ()
  | fuel + 1, source => do
    let state ← get
    let source := { source with aliases := state.aliases, documents := state.documents }
    let answer := Reader.readLine.run source
    let more ←
      if mayGoOn source answer then
        match state.descriptors.lookup 0 with
        | none => pure []
        | some handle => do
          match ← Activity.readSome handle 8191 with
          | .ok octets => pure (Text.ofOctets octets)
          | .error _ => pure []
      else pure []
    if !more.isEmpty then
      interpreter.runInput fuel { source with rest := source.rest ++ more }
    else
      match answer with
      | .error misreading =>
        modify fun state => { state with line := misreading.line }
        Shell.giveUp misreading.fault.message.toList
      | .ok (none, _) => pure ()
      | .ok (some .nothing, source) => interpreter.runInput fuel source
      | .ok (some command, source) =>
        modify fun state => { state with documents := source.documents }
        interpreter.evaluate command {}
        interpreter.runInput fuel source

/-- Evaluate what the arguments of a shell ask for. -/
def runOptions (interpreter : Interpreter) (options : Options) : Shell Unit := do
  let readsInput := options.letters.contains 's'
  let set (name : Option (List Char)) (arguments : List (List Char)) : Shell Unit :=
    modify fun state =>
      { state.withArguments arguments with
        name := name.getD state.name
        options := options.letters }
  if options.isGiven then
    match options.operands with
    | [] =>
      modify fun state => { state with line := 0 }
      Shell.giveUp "-c requires an argument".toList
    | text :: others =>
      set others.head? (others.drop 1)
      discard (interpreter.runLines { final := !readsInput } plenty false { rest := text })
      if readsInput then interpreter.runInput plenty { rest := [] }
  else
    match if readsInput then [] else options.operands with
    | [] =>
      set none options.operands
      modify fun state => { state with options := 's' :: options.letters.filter (· != 's') }
      interpreter.runInput plenty { rest := [] }
    | path :: others =>
      modify fun state => { state with line := 0 }
      let handle ← Shell.openPath .read true path
      let octets ← Shell.drain handle plenty []
      Activity.release [handle]
      set (some path) others
      discard (interpreter.runLines {} plenty false { rest := Text.ofOctets octets })

end Interpreter

/-- The variables that a script finds. -/
def initialBindings (setting : Setting) (path : List Char) : List Binding :=
  let given : List Binding := setting.environment.filterMap fun (name, value) =>
    if Reader.isName name.toList && name != "IFS" then
      some { name, value := some value, exported := true }
    else none
  let usual : List Binding := [
    { name := "IFS", value := some [' ', '\t', '\n'] }, { name := "OPTIND", value := some ['1'] },
    { name := "PATH", value := some Program.usualPath }, { name := "PPID", value := some ['1'] },
    { name := "PS1", value := some ['#', ' '] }, { name := "PS2", value := some ['>', ' '] },
    { name := "PS4", value := some ['+', ' '] },
    { name := "PWD", value := some path, exported := true }]
  given.filter (fun binding => binding.name ≠ "PWD") ++
    usual.filter fun binding => given.all fun other => other.name ≠ binding.name || other.name = "PWD"

/-- The state in which a script starts. -/
def State.ofSetting (setting : Setting) : State :=
  let path := Builtin.pathOfPlace setting.directory
  { name := setting.words.headD []
    shellNumber := setting.number
    number := setting.number
    descriptors := setting.descriptors
    directory := setting.directory
    path
    bindings := initialBindings setting path }

/-- The program that evaluates scripts. -/
def shell (executor : Executor) : Program := fun setting =>
  let interpreter := interpreter executor
  let step : Shell Unit :=
    match Options.read (setting.words.drop 1) with
    | .ok options => interpreter.runOptions options
    | .error fault => do
      modify fun state => { state with line := 0 }
      Shell.giveUp fault
  (interpreter.conclude step).toProcess (.ofSetting setting) fun _ state =>
    Interpreter.ending state

end Crosscheck.Script
