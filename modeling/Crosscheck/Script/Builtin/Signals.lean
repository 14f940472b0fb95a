import Crosscheck.Script.Builtin.Basic

/-!
# Signals and jobs

The commands that make provision for signals and send them, and those about the processes
that run beside a script.
-/

namespace Crosscheck.Script.Builtin

/-- Make provision for a signal as an action says; without one it does what it usually
does. -/
def provideFor (signal : Nat) (action : Option (List Char)) : Shell Unit := do
  modify fun state =>
    { state with
      traps := (action.map fun action => (signal, action)).toList ++
        state.traps.filter fun (other, _) => other ≠ signal }
  if signal ≠ 0 then
    Activity.provide signal (match action with
      | none => .usual
      | some [] => .ignored
      | some _ => .noted)

/-- Make provision for signals by name. A name of none ends that. -/
def provideForAll (action : Option (List Char)) : List (List Char) → Shell Nat
  | [] => return 0
  | name :: others => do
    match signal? 0 name with
    | none =>
      Shell.writeError ("trap: ".toList ++ name ++ ": bad trap\n".toList)
      return 1
    | some signal =>
      provideFor signal action
      provideForAll action others

/-- Set what is done on signals, or show it. -/
def trap (_ : Interpreter) (_ : Manner) (arguments : List (List Char)) : Shell Nat := do
  let arguments ← operands arguments
  match arguments with
  | [] =>
    let traps := (← get).traps.mergeSort fun left right => decide (left.1 ≤ right.1)
    say (traps.flatMap fun (signal, action) =>
      "trap -- ".toList ++ quote action ++ (" " ++ signalName signal ++ "\n").toList)
  | first :: others =>
    let isNumber := first.head?.any Char.isDigit && (signal? 0 first).isSome
    if others.isEmpty || isNumber then provideForAll none arguments
    else provideForAll (if first = ['-'] then none else some first) others

/-! ## Sending signals -/

/-- How `kill` is used. -/
def killUsage : List Char :=
  ("Usage: kill [-s sigspec | -signum | -sigspec] [pid | job]... or\n" ++
    "kill -l [exitstatus]").toList

/-- The job that a text means: its number or its place after a percent sign. -/
def findJob (text : List Char) : Shell Job := do
  let jobs := (← get).jobs
  let found :=
    match text with
    | ['%'] => jobs.head?
    | ['%', '%'] => jobs.head?
    | ['%', '+'] => jobs.head?
    | ['%', '-'] => jobs[1]?
    | '%' :: digits => (number? digits).bind fun number => jobs.find? fun job => job.number = number
    | _ => none
  match found with
  | some job => return job
  | none => Shell.giveUp ("No such job: ".toList ++ text)

/-- The process that a text means. Jobs and groups of processes are not known to the
system. -/
def receiver? (text : List Char) : Shell (Option Nat) := do
  match text with
  | '%' :: _ =>
    discard (findJob text)
    return none
  | '-' :: digits =>
    discard (number digits)
    return none
  | digits => do
    let number ← number digits
    let own := (← get).number
    return some (if number = 0 then own else number)

/-- Send a signal to those that texts mean. -/
def sendAll (signal : Nat) : List (List Char) → Shell Nat
  | [] => return 0
  | text :: others => do
    let found ←
      match ← receiver? text with
      | some receiver => (Activity.send signal receiver : Shell Bool)
      | none => pure false
    unless found do Shell.complain "No such process\n".toList
    let status ← sendAll signal others
    return if found then status else 1

/-- Show the names of signals, or that of the signal which a status tells of. -/
def listSignals (arguments : List (List Char)) : Shell Nat := do
  match arguments with
  | [] =>
    let names := ((List.range Signal.bound).drop 1).map signalName
    say (String.join (("0" :: names).map (· ++ "\n"))).toList
  | argument :: _ =>
    let value ← number argument
    let value := if 128 < value then value - 128 else value
    if 0 < value ∧ value < Signal.bound then say (signalName value ++ "\n").toList
    else Shell.giveUp ("invalid signal number or exit status: ".toList ++ argument)

/-- The signal of options; `none` for a list of signals. -/
def signalOfOptions (options : List (Char × List Char)) : Shell (Option Nat) := do
  if options.any fun (letter, _) => letter == 'l' then return none
  match options.getLast? with
  | some (_, name) =>
    match signal? 1 name with
    | some signal => return some signal
    | none => Shell.giveUp ("invalid signal number or name: ".toList ++ name)
  | none => return some Signal.terminate

/-- Send a signal. -/
def kill (_ : Interpreter) (_ : Manner) (arguments : List (List Char)) : Shell Nat := do
  match arguments with
  | [] => Shell.giveUp killUsage
  | ('-' :: name) :: others =>
    match signal? 1 name with
    | some signal => send (some signal) others
    | none =>
      let (options, others) ← options "ls:" arguments
      send (← signalOfOptions options) others
  | arguments => send (some Signal.terminate) arguments
where
  send (signal : Option Nat) (arguments : List (List Char)) : Shell Nat := do
    match signal with
    | none => listSignals arguments
    | some signal => do
      if arguments.isEmpty then Shell.giveUp killUsage
      sendAll signal arguments

/-! ## Jobs -/

/-- Note how a process of a job ended. -/
def noteEnding (number : Nat) (ending : ExitStatus) : Shell Unit :=
  modify fun state =>
    { state with
      jobs := state.jobs.map fun job =>
        if job.processes.contains number then
          { job with endings := (number, ending) :: job.endings }
        else job }

/-- How an await ended that signals may interrupt. -/
inductive Awaited where
  | ended
  | interrupted (signal : Nat)

/-- Await the processes of a job, of which some may have been awaited before. -/
def awaitProcesses (tells : Bool) (job : Job) : List Nat → Shell Awaited
  | [] => return .ended
  | number :: others => do
    if (job.endings.lookup number).isSome then awaitProcesses tells job others
    else
      match ← Activity.await number .interruptible with
      | some ending =>
        if tells then Shell.reportEnding ending
        noteEnding number ending
        awaitProcesses tells job others
      | none => return .interrupted 0

/-- Note that the end of a job has been asked for. -/
def markWaited (number : Nat) : Shell Unit :=
  modify fun state =>
    { state with
      jobs := state.jobs.map fun job =>
        if job.number = number then { job with waited := true } else job }

/-- Await jobs. -/
def awaitJobs (tells : Bool) : List Job → Shell Awaited
  | [] => return .ended
  | job :: others => do
    match ← awaitProcesses tells job job.processes with
    | .ended =>
      markWaited job.number
      awaitJobs tells others
    | interrupted => return interrupted

/-- The status of a job that has ended. -/
def statusOfJob (number : Nat) : Shell Nat := do
  match (← get).jobs.find? fun job => job.number = number with
  | none => return 127
  | some job =>
    let last := job.processes.getLast?.bind fun process => job.endings.lookup process
    return (last.map Shell.statusOf).getD 127

/-- The signal that has interrupted the script, which is acted upon. -/
def interruption (interpreter : Interpreter) : Shell Nat := do
  let noted ← Activity.noted
  let state ← get
  let signal := noted.head?.getD 0
  match state.traps.lookup signal with
  | some action =>
    let status := 128 + signal
    modify fun state => { state with statusBefore := some status }
    interpreter.runAction status action
    modify fun current => { current with statusBefore := state.statusBefore }
  | none => pure ()
  return 128 + signal

/-- Await those that texts mean; the status is that of the last one. -/
def awaitEach (interpreter : Interpreter) : Nat → List (List Char) → Shell Nat
  | status, [] => return status
  | status, text :: others => do
    let job ←
      match text with
      | '%' :: _ => some <$> findJob text
      | digits => do
        let number ← number digits
        let state ← get
        pure (state.jobs.find? fun job => job.processes.getLast? == some number)
    match job with
    | none => awaitEach interpreter status others
    | some job =>
      match ← awaitProcesses true job job.processes with
      | .ended =>
        markWaited job.number
        awaitEach interpreter (← statusOfJob job.number) others
      | .interrupted _ => interruption interpreter

/-- Await processes that run beside the script, all of them unless some are named. -/
def wait (interpreter : Interpreter) (_ : Manner) (arguments : List (List Char)) : Shell Nat := do
  match ← operands arguments with
  | [] =>
    match ← awaitJobs false (← get).jobs with
    | .ended => return 0
    | .interrupted _ => interruption interpreter
  | texts => awaitEach interpreter 127 texts

/-- Note the ends of the processes of jobs that have ended. -/
def pollJobs : Shell Unit := do
  let jobs := (← get).jobs
  jobs.forM fun job => job.processes.forM fun number => do
    unless (job.endings.lookup number).isSome do
      match ← Activity.await number .none with
      | some ending => noteEnding number ending
      | none => pure ()

/-- How a job is shown, given its place among those that still run. -/
def describeJob (place : Nat) (job : Job) : List Char :=
  let last := job.processes.getLast?.bind fun process => job.endings.lookup process
  let state :=
    if job.isRunning then "Running"
    else
      match last with
      | some (.code 0) => "Done"
      | some (.code status) => s!"Done({status})"
      | some (.signal number) => Signal.description number
      | none => "Done"
  let mark := if place = 0 then "+" else if place = 1 then "-" else " "
  let start := s!"[{job.number}] {mark} {state}"
  (start ++ String.ofList (List.replicate (33 - start.length) ' ') ++ "\n").toList

/-- How jobs are shown, given how many before them still run. -/
def describeJobs : Nat → List Job → List Char
  | _, [] => []
  | place, job :: others =>
    describeJob place job ++ describeJobs (if job.isRunning then place + 1 else place) others

/-- Show the processes that run beside the script. -/
def showJobs (_ : Interpreter) (_ : Manner) (arguments : List (List Char)) : Shell Nat := do
  let (options, _) ← options "lp" arguments
  pollJobs
  let state ← get
  let onlyNumbers := options.any fun (letter, _) => letter == 'p'
  let shown :=
    if onlyNumbers then state.jobs.flatMap fun job => Text.digits (job.processes.headD 0) ++ ['\n']
    else describeJobs 0 state.jobs
  modify fun state => { state with jobs := state.jobs.filter Job.isRunning }
  say shown

/-- Refuse to bring a job to the front, which has no terminal to return to. -/
def bringJob (_ : Interpreter) (_ : Manner) (arguments : List (List Char)) : Shell Nat := do
  match (← operands arguments).head? with
  | some text => discard (findJob text)
  | none => if (← get).jobs.isEmpty then Shell.giveUp "No current job".toList
  Shell.giveUp "job (null) not created under job control".toList

end Crosscheck.Script.Builtin
