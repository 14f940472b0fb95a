import Crosscheck.Script.State

/-!
# Steps of a script

What a script does step by step: each step may use and change the state, act on the system,
and leave the commands around it before their end.
-/

namespace Crosscheck.Script

/-- Why commands are left before their end. -/
inductive Departure where
  /-- The script ends. -/
  | stop
  /-- The script ends because of a mistake, unless the command is one of a kind that
  survives its mistakes. -/
  | failure
  /-- The running function ends. -/
  | back
  /-- A number of loops end. -/
  | leave (loops : Nat)
  /-- This turn of a loop ends, after the loops inside it. -/
  | again (loops : Nat)
  deriving DecidableEq, Repr

/-- A step of a script. -/
abbrev Shell := ExceptT Departure (StateT State Activity)

/-- How a command is evaluated. -/
structure Manner where
  /-- Whether the status is looked at, so that a failure does not end the script. -/
  tested : Bool := false
  /-- Whether the process has nothing to do after the command. -/
  final : Bool := false

/-- What evaluates commands, where their status is that of the state, and executes
programs. -/
structure Interpreter where
  evaluate : Command → Manner → Shell Unit
  executor : Executor

/-- How often a loop may turn and how deep commands may nest. -/
def plenty : Nat := 1000000000000

/-- What a turn of a loop and the call of a function take at least, in nanoseconds. -/
def turnTime : Nat := 10000

namespace Shell

/-- The process that takes a step and does something after it. -/
def toProcess {α : Type} (step : Shell α) (state : State)
    (next : Except Departure α → State → Process) : Process :=
  step.run.run state fun (result, state) => next result state

/-- Become another process. -/
def become {α : Type} (process : Process) : Shell α :=
  ExceptT.mk fun _ => (fun _ => process : Activity (Except Departure α × State))

/-- Take a step, whether or not it leaves the commands around it. -/
def attempt {α : Type} (step : Shell α) : Shell (Except Departure α) :=
  tryCatch (Except.ok <$> step) fun departure => pure (.error departure)

/-- Take a step and then another one, whether or not the first leaves the commands around
it. -/
def ensuring {α : Type} (step : Shell α) (after : Shell Unit) : Shell α := do
  let result ← attempt step
  after
  match result with
  | .ok value => return value
  | .error departure => throw departure

/-- Take a step and then another one, unless the script ends by the first. -/
def restoring {α : Type} (step : Shell α) (after : Shell Unit) : Shell α := do
  match ← attempt step with
  | .ok value =>
    after
    return value
  | .error departure =>
    match departure with
    | .stop => pure ()
    | .failure => pure ()
    | _ => after
    throw departure

/-- Set the status. -/
def setStatus (status : Nat) : Shell Unit := modify fun state => { state with status }

/-- The status of the last command. -/
def status : Shell Nat := return (← get).status

/-! ## Writing -/

/-- Write to a descriptor; the answer tells why it was not possible. -/
def write (descriptor : Nat) (text : List Char) : Shell (Option FileError) := do
  match (← get).descriptors.lookup descriptor with
  | none => return if text.isEmpty then none else some .badDescriptor
  | some handle => Activity.write handle (Text.toOctets text)

/-- Write to the descriptor for messages. -/
def writeError (text : List Char) : Shell Unit := discard (write 2 text)

/-- Write a message about a command. -/
def complain (about : List Char) : Shell Unit := do
  let state ← get
  let parts := state.name :: Text.digits state.line :: state.running.toList ++ [about]
  writeError ((": ".toList).intercalate parts ++ ['\n'])

/-- Give up because of a mistake. -/
def giveUp {α : Type} (about : List Char) (status : Nat := 2) : Shell α := do
  complain about
  setStatus status
  throw .failure

/-- Do something under the name of a command. -/
def named {α : Type} (name : List Char) (step : Shell α) : Shell α := do
  let running := (← get).running
  modify fun state => { state with running := some name }
  ensuring step (modify fun state => { state with running })

/-! ## Variables -/

/-- Give a variable a value. -/
def assign (name : String) (value : List Char) : Shell Unit := do
  if (← get).isReadOnly name then giveUp (name.toList ++ ": is read only".toList)
  modify fun state => state.assign name value

/-- Take a variable away. -/
def unassign (name : String) : Shell Unit := do
  if (← get).isReadOnly name then giveUp (name.toList ++ ": is read only".toList)
  modify fun state => state.bind name none

/-- Remember where a program has been found. -/
def noteProgram (name path : List Char) : Shell Unit :=
  modify fun state =>
    { state with located := (state.located.filter fun (other, _) => other ≠ name) ++ [(name, path)] }

/-! ## Open files -/

/-- Change where descriptors lead. Open files that no descriptor leads to any more are
released. -/
def changeDescriptors (change : State → State) : Shell Unit := do
  let before ← get
  let after := change before
  set after
  let held := after.handles
  Activity.release (before.handles.filter (!held.contains ·)).eraseDups

/-- Read all that can be read from an open file, up to its end. The fuel bounds the number
of its parts. -/
def drain (handle : Handle) : Nat → List (List UInt8) → Shell (List UInt8)
  | 0, parts => return parts.reverse.flatten
  | fuel + 1, parts => do
    match ← Activity.readSome handle 4096 with
    | .ok [] => return parts.reverse.flatten
    | .ok octets => drain handle fuel (octets :: parts)
    | .error _ => return parts.reverse.flatten

/-! ## Processes -/

/-- The status that stands for the end of a process. -/
def statusOf : ExitStatus → Nat
  | .code number => number
  | .signal number => 128 + number

/-- Tell that a process that was waited for was ended by a signal. -/
def reportEnding (ending : ExitStatus) : Shell Unit := do
  match ending with
  | .code _ => pure ()
  | .signal number =>
    unless [2, Signal.brokenPipe].contains number do
      writeError (Signal.description number ++ "\n").toList

/-- Wait for processes to end. The status is that of the last one. -/
def awaitAll : List Nat → Shell Nat
  | [] => return 0
  | number :: others => do
    let ending ← Activity.await number .unlimited
    match ending with
    | some ending => reportEnding ending
    | none => pure ()
    match others with
    | [] => return (ending.map statusOf).getD 127
    | _ => awaitAll others

end Shell
end Crosscheck.Script
