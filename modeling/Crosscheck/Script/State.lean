import Crosscheck.Process.Program
import Crosscheck.Process.Signal
import Crosscheck.Script.Syntax

/-!
# The state of a script

What the commands of a script share: parameters and functions, the directory, where the
descriptors lead, the options, what is to be done on signals, and the processes that run
beside the script.
-/

namespace Crosscheck.Script

/-- A variable. It may be known without having a value. -/
structure Binding where
  name : String
  value : Option (List Char)
  exported : Bool := false
  isReadOnly : Bool := false
  deriving DecidableEq, Repr

/-- Processes that run beside the script, the last of which gives the status of all. -/
structure Job where
  number : Nat
  processes : List Nat
  /-- How those ended that have been awaited. -/
  endings : List (Nat × ExitStatus) := []
  /-- Whether its end has been asked for, so that its number may be given to another one. -/
  waited : Bool := false
  deriving DecidableEq, Repr

/-- Whether the end of a process of a job is still awaited. -/
def Job.isRunning (job : Job) : Bool :=
  job.processes.any fun number => (job.endings.lookup number).isNone

/-- What a variable was before something else took its name for a while. -/
structure Hidden where
  name : String
  binding : Option Binding
  deriving DecidableEq, Repr

/-- What the commands of a script share. -/
structure State where
  /-- What the script is called in its own messages. -/
  name : List Char
  /-- The number of the process that the script knows itself by. -/
  shellNumber : Nat
  /-- The number of the process that runs these commands. -/
  number : Nat
  arguments : List (List Char) := []
  bindings : List Binding := []
  functions : List (String × Command) := []
  aliases : List (String × List Char) := []
  /-- The programs that have been found, with their paths. -/
  located : List (List Char × List Char) := []
  /-- The texts that stand in the script, by number. -/
  documents : Array Word := #[]
  /-- What the variables were that the running function keeps to itself; `none` outside of
  functions. -/
  hidden : Option (List Hidden) := none
  /-- How many calls are running. -/
  depth : Nat := 0
  /-- How many loops are running, those around the running function apart. -/
  loops : Nat := 0
  status : Nat := 0
  /-- The status of the last command that was run for its output. -/
  substituted : Nat := 0
  /-- The line of the running command. -/
  line : Nat := 1
  /-- The command that messages are about. -/
  running : Option (List Char) := none
  /-- The letters of the options that are set. -/
  options : List Char := []
  descriptors : List (Nat × Handle)
  /-- Where descriptors led before they were redirected for a while, innermost first. -/
  kept : List (List (Nat × Option Handle)) := []
  directory : Place := []
  /-- The path by which the script has come to its directory. -/
  path : List Char := ['/']
  /-- What is done on signals, and at the end for the number zero; nothing at all if the
  text is empty. -/
  traps : List (Nat × List Char) := []
  /-- The status before what is done on a signal or at the end, while that is running. -/
  statusBefore : Option Nat := none
  jobs : List Job := []
  /-- The last process that was started beside the script. -/
  background : Option Nat := none
  /-- The number of the argument that is searched for options next, and how many characters of
  the one before have been, zero if that is done with. -/
  optionIndex : Nat := 1
  optionOffset : Nat := 0
  /-- The permissions that new files lack. -/
  mask : Nat := 18
  deriving Inhabited

namespace State

/-! ## Options -/

/-- The options by name and letter. -/
def optionNames : List (String × Char) := [
  ("errexit", 'e'), ("noglob", 'f'), ("ignoreeof", 'I'), ("interactive", 'i'), ("monitor", 'm'),
  ("noexec", 'n'), ("stdin", 's'), ("xtrace", 'x'), ("verbose", 'v'), ("vi", 'V'), ("emacs", 'E'),
  ("noclobber", 'C'), ("allexport", 'a'), ("notify", 'b'), ("nounset", 'u'), ("privileged", 'p'),
  ("nolog", 'l'), ("debug", 'd')]

/-- Whether an option is set. -/
def has (state : State) (option : Char) : Bool := state.options.contains option

/-- Set an option or clear it. -/
def setOption (state : State) (option : Char) (value : Bool) : State :=
  let others := state.options.filter (· != option)
  { state with options := if value then option :: others else others }

/-! ## Parameters -/

/-- The binding of a variable. -/
def binding? (state : State) (name : String) : Option Binding :=
  state.bindings.find? fun binding => binding.name = name

/-- Replace the binding of a variable, or take it away. -/
def bind (state : State) (name : String) (binding : Option Binding) : State :=
  { state with
    bindings := binding.toList ++ state.bindings.filter fun other => other.name ≠ name }

/-- Give a variable a value. -/
def assign (state : State) (name : String) (value : List Char) : State :=
  let current := (state.binding? name).getD { name, value := none }
  let exported := current.exported || state.has 'a'
  let state :=
    if name = "OPTIND" then
      { state with optionIndex := max 1 ((String.ofList value).toNat?.getD 1), optionOffset := 0 }
    else if name = "PATH" then { state with located := [] }
    else state
  state.bind name (some { current with value := some value, exported })

/-- Replace the arguments. -/
def withArguments (state : State) (arguments : List (List Char)) : State :=
  { state with arguments, optionIndex := 1, optionOffset := 0 }

/-- Whether a variable keeps its value for good. -/
def isReadOnly (state : State) (name : String) : Bool :=
  (state.binding? name).any Binding.isReadOnly

/-- The value of a variable. -/
def content? (state : State) (name : String) : Option (List Char) :=
  (state.binding? name).bind Binding.value

/-- The separators of fields. -/
def separators (state : State) : List Char := (state.content? "IFS").getD [' ', '\t', '\n']

/-- The arguments in one text, with the first separator between them. -/
def joinedArguments (state : State) : List Char :=
  (state.separators.take 1).intercalate state.arguments

/-- The letters of the options that are set, last first. -/
def optionLetters (state : State) : List Char :=
  (((optionNames.map Prod.snd).filter state.has).filter fun letter =>
    letter != 'l' && letter != 'd').reverse

/-- The value of a parameter. -/
def value? (state : State) (name : String) : Option (List Char) :=
  match name with
  | "?" => some (Text.digits state.status)
  | "$" => some (Text.digits state.shellNumber)
  | "#" => some (Text.digits state.arguments.length)
  | "0" => some state.name
  | "-" => some state.optionLetters
  | "!" => state.background.map Text.digits
  | "@" => some state.joinedArguments
  | "*" => some state.joinedArguments
  | _ =>
    match name.toNat? with
    | some position => state.arguments[position - 1]?
    | none => state.content? name

/-- What a program is given of the variables. -/
def environment (state : State) : List (String × List Char) :=
  state.bindings.filterMap fun binding =>
    if binding.exported then binding.value.map fun value => (binding.name, value) else none

/-! ## Descriptors -/

/-- Make a descriptor lead to an open file, or nowhere. -/
def connect (state : State) (descriptor : Nat) (handle : Option Handle) : State :=
  { state with
    descriptors := (handle.map fun handle => (descriptor, handle)).toList ++
      state.descriptors.filter fun (other, _) => other ≠ descriptor }

/-- The open files that the commands have use for, or will have again. -/
def handles (state : State) : List Handle :=
  state.descriptors.map Prod.snd ++ state.kept.flatMap fun saved => saved.filterMap Prod.snd

/-- The state of the commands that another process runs. -/
def apart (state : State) (number : Nat) : State :=
  { state with
    number
    statusBefore := none
    traps := state.traps.filter fun (signal, action) => signal ≠ 0 ∧ action.isEmpty
    jobs := [] }

/-- The signals for which the commands of a script have made provision by actions. -/
def caught (state : State) : List Nat :=
  state.traps.filterMap fun (signal, action) =>
    if signal = 0 ∨ action.isEmpty then none else some signal

end State
end Crosscheck.Script
