import Crosscheck.Script.Reader
import Crosscheck.Script.Redirection

/-!
# Jobs

Commands that run apart from the script do so in processes of their own, which start from
the state that the script has at that moment. What a script does at its end and on signals
is a text that it has been given, and is read like the script itself.
-/

namespace Crosscheck.Script

namespace State

/-- Whether a job keeps its number. -/
def keepsNumber (job : Job) : Bool := job.isRunning || !job.waited

/-- The number of a new job. -/
def nextJob (state : State) : Nat :=
  let numbers := List.range (state.jobs.length + 1)
  ((numbers.find? fun number =>
    state.jobs.all fun job => job.number ≠ number + 1 || !keepsNumber job).getD 0) + 1

/-- Forget the job that has the number of a new one. -/
def freeJob (state : State) : State :=
  { state with jobs := state.jobs.filter fun job => job.number ≠ state.nextJob }

end State

namespace Interpreter

/-! ## Texts -/

/-- Evaluate the lines of a text; the answer tells whether there was a command. The fuel
bounds the number of lines. -/
def runLines (interpreter : Interpreter) (manner : Manner) :
    Nat → Bool → Source → Shell Bool
  | 0, found, _ => return found
  | fuel + 1, found, source => do
    let state ← get
    let source := { source with aliases := state.aliases, documents := state.documents }
    match Reader.readLine.run source with
    | .error misreading =>
      modify fun state => { state with line := misreading.line }
      Shell.giveUp misreading.fault.message.toList
    | .ok (none, _) => return found
    | .ok (some .nothing, source) => interpreter.runLines manner fuel found source
    | .ok (some command, source) =>
      modify fun state => { state with documents := source.documents }
      interpreter.evaluate command { manner with final := manner.final && source.isAtEnd }
      interpreter.runLines manner fuel true source

/-- Evaluate a text. Without a command the status is zero. -/
def runText (interpreter : Interpreter) (manner : Manner) (text : List Char) : Shell Unit := do
  unless ← interpreter.runLines manner plenty false { rest := text } do Shell.setStatus 0

/-! ## Ends and signals -/

/-- Do what a text says on a signal. The status is then what it was before, unless a function
has returned another one. -/
def runAction (interpreter : Interpreter) (status : Nat) (action : List Char) : Shell Unit := do
  tryCatch (interpreter.runText {} action) fun departure => do
    match departure with
    | .leave _ => Shell.setStatus status
    | .again _ => Shell.setStatus status
    | _ => pure ()
    throw departure
  Shell.setStatus status

/-- Do what is to be done on signals. -/
def runTraps (interpreter : Interpreter) : Shell Unit := do
  unless (← get).caught.isEmpty do
    let noted ← Activity.noted
    unless noted.isEmpty do
      let before := (← get).statusBefore
      let status := before.getD (← Shell.status)
      modify fun state => { state with statusBefore := some status }
      (noted.eraseDups.mergeSort (fun left right => decide (left ≤ right))).forM fun signal => do
        match (← get).traps.lookup signal with
        | some action => interpreter.runAction status action
        | none => pure ()
      modify fun state => { state with statusBefore := before }

/-- Do what a text says at the end of the script, which has its own status if it says so. -/
def endWith (interpreter : Interpreter) (status : Nat) (action : List Char) : Shell Unit :=
  tryCatch (do interpreter.runText {} action; Shell.setStatus status) fun departure => do
    match departure with
    | .failure => pure ()
    | .stop => pure ()
    | _ => Shell.setStatus status

/-- Take a step after which the script ends, with what is to be done at its end. -/
def conclude (interpreter : Interpreter) (step : Shell Unit) : Shell Unit := do
  discard step.attempt
  let state ← get
  match state.traps.lookup 0 with
  | some action =>
    unless action.isEmpty do
      let status := state.status
      set { state with
        traps := state.traps.filter fun (signal, _) => signal ≠ 0
        statusBefore := some status
        loops := 0 }
      interpreter.endWith status action
  | none => pure ()

/-! ## Processes -/

/-- The end of the process with the status of the script. -/
def ending (state : State) : Process := .exit (.code (state.status % 256))

/-- Start a process that takes a step and ends. -/
def fork (interpreter : Interpreter) (step : Shell Unit) : Shell Nat := do
  modify State.freeJob
  let state ← get
  Activity.fork fun number =>
    let beginning : Shell Unit := do
      state.caught.forM fun signal => Activity.provide signal .usual
      interpreter.conclude step
    beginning.toProcess (state.apart number) fun _ state => ending state

/-- Run a command for its output. -/
def capture (interpreter : Interpreter) (body : Command) : Shell (List Char) := do
  match body with
  | .nothing => return []
  | body =>
    let (reader, writer) ← Activity.openPipe
    let child ← interpreter.fork do
      Activity.release [reader]
      Shell.changeDescriptors fun state => state.connect 1 (some writer)
      interpreter.evaluate body { final := true }
    Activity.release [writer]
    let octets ← Shell.drain reader plenty []
    Activity.release [reader]
    let status ← Shell.awaitAll [child]
    modify fun state => { state with substituted := status }
    let text := (Text.ofOctets octets).filter (· != '\x00')
    return (text.reverse.dropWhile (· == '\n')).reverse

/-- How words are expanded. -/
def expander (interpreter : Interpreter) : Expander := ⟨interpreter.capture⟩

/-- What a process does first that is not waited for: it does not react to what interrupts
the script, and it reads nothing unless its input is redirected. -/
def standApart (readsNothing : Bool) : Shell Unit := do
  Activity.provide 2 .ignored
  Activity.provide 3 .ignored
  if readsNothing then
    let handle ← Activity.openFile ["dev", "null"] .read
    Shell.changeDescriptors fun state => state.connect 0 (some handle)

/-- Start the commands of a pipeline, given where the first one reads from and those that
were started before, last first. -/
def startStages (interpreter : Interpreter) (manner : Manner) (beside : Bool) :
    List Command → Option Handle → List Nat → Shell (List Nat)
  | [], _, started => return started.reverse
  | command :: others, input, started => do
    let pipe : Option (Handle × Handle) ←
      if others.isEmpty then pure none else some <$> (Activity.openPipe : Shell (Handle × Handle))
    let child ← interpreter.fork do
      if beside then standApart started.isEmpty
      Activity.release (pipe.map Prod.fst).toList
      Shell.changeDescriptors fun state =>
        let state := if input.isSome then state.connect 0 input else state
        match pipe with
        | some (_, writer) => state.connect 1 (some writer)
        | none => state
      interpreter.evaluate command { manner with final := true }
    Activity.release (input.toList ++ (pipe.map Prod.snd).toList)
    interpreter.startStages manner beside others (pipe.map Prod.fst) (child :: started)

/-- Run the commands of a pipeline side by side. -/
def pipeline (interpreter : Interpreter) (manner : Manner) (stages : List Command) :
    Shell Unit := do
  let started ← interpreter.startStages manner false stages none []
  Shell.setStatus (← Shell.awaitAll started)

/-- Start a command without waiting for its end. -/
def background (interpreter : Interpreter) (manner : Manner) (body : Command) : Shell Unit := do
  let started ←
    match body with
    | .pipeline stages => interpreter.startStages manner true stages none []
    | body => do
      let child ← interpreter.fork do
        standApart true
        interpreter.evaluate body { final := true }
      pure [child]
  modify fun state =>
    { state with
      jobs := { number := state.nextJob, processes := started } :: state.jobs
      background := started.getLast?
      status := 0 }

/-! ## Programs -/

/-- Become the program that a path leads to. The answer tells why that is not possible; a
file that is no program is read by a shell. -/
def execute (interpreter : Interpreter) (place : Place) (path : List Char)
    (words : List (List Char)) : Shell FileError := do
  let state ← get
  let setting : Setting := {
    number := state.number
    words
    path
    environment := state.environment
    directory := state.directory
    descriptors := state.descriptors }
  let tree ← Activity.look
  match interpreter.executor tree place setting with
  | .ok process => become state process
  | .error .malformedProgram =>
    let shell := "/bin/sh".toList
    let executed : Except FileError Process := do
      let place ← Program.locate tree state.directory shell
      interpreter.executor tree place { setting with
        words := shell :: path :: words.drop 1
        path := shell }
    match executed with
    | .ok process => become state process
    | .error error => return error
  | .error error => return error
where
  /-- Leave nothing of the script behind but its open descriptors. -/
  become (state : State) (process : Process) : Shell FileError := do
    state.caught.forM fun signal => Activity.provide signal .usual
    let used := state.descriptors.map Prod.snd
    Activity.release (state.handles.filter (!used.contains ·)).eraseDups
    Shell.become process

end Interpreter
end Crosscheck.Script
