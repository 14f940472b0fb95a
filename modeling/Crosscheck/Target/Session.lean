import Crosscheck.Process.System
import Crosscheck.Session.Settings
import Crosscheck.Target
import Crosscheck.Text.Quoted

/-!
# Engines behind a shell

One process serves input after input, each on a fresh database. It is the context of
execution: after a timeout it is killed, after any other fault it is given up, and the
next input starts another one. Coverage comes through a file, which is filled with
zeros before an input and read after it.
-/

namespace Crosscheck

/-- How a wait for the sentinel ends, and when. -/
inductive Heard where
  | complete (transcript : Transcript) (time : Nat)
  | silent (time : Nat)
  | exited (time : Nat)
  deriving DecidableEq, Repr

/-- A process that is being spoken to, with the system that runs it. -/
structure Session where
  system : System
  /-- The open file for coverage, if there is one. -/
  coverage : Option Handle := none

namespace Session

/-- Let the process go on while its output is received. -/
def listen (session : Session) (reception : Reception) : Session :=
  { session with system := { session.system with reception }.run System.plenty }

/-- Let the process go on up to a time. -/
def idle (session : Session) (time : Nat) : Session := session.listen { phase := .absent time }

/-- The files that the process meets. -/
def tree (session : Session) : FileTree := session.system.tree

/-- Change the files that the process meets. -/
def withTree (session : Session) (tree : FileTree) : Session :=
  { session with system := { session.system with tree } }

/-- What a reception amounts to. Where no stream is left open nothing more can come. -/
def heard (session : Session) (now : Nat) : Heard :=
  let system := session.system
  match system.reception.phase with
  | .settling _ => .complete system.reception.transcript system.reception.limit
  | .ended time true => .complete system.reception.transcript time
  | .ended time false => .exited time
  | .awaiting deadline =>
    if system.out.isOpen || system.err.isOpen then .silent deadline else .exited now
  | .absent time => .silent time

/-- Write zeros over the start of the file for coverage. -/
def clearCoverage (session : Session) (capacity : Nat) : Session :=
  match session.coverage.bind session.system.placeOf? with
  | none => session
  | some place =>
    session.withTree (session.tree.change place fun octets =>
      List.replicate capacity 0 ++ octets.drop capacity)

/-- The counters in the file for coverage, if it is long enough. -/
def coverage? (session : Session) (capacity : Nat) : Option (Array UInt8) := do
  let place ← session.system.placeOf? (← session.coverage)
  let octets := session.tree.octetsAt place
  if octets.length < capacity then none else some (octets.take capacity).toArray

/-- Write to the process and wait for the sentinel. -/
def exchange (session : Session) (settings : SessionSettings) (now deadline : Nat)
    (token text : String) : Heard × Session :=
  let supplied :=
    { session with system := session.system.supply now (Text.Utf8.octets text) }
  let after := supplied.listen
    { token, settle := settings.settle, phase := .awaiting (now + deadline) }
  (after.heard now, after)

/-- How long the end of a process is awaited after its output has ended. -/
def exitPatience : Nat := Duration.ofMillis 490

/-- The fault of a process whose output has ended, when it is known, and the session as it is
then. -/
def exitFault (session : Session) (now : Nat) : Fault × Nat × Session :=
  let after := session.idle (now + exitPatience + 1)
  match after.system.ended? with
  | some (time, status) =>
    let time := max now time
    (⟨.crash, status.describe⟩, time, session.idle (time + 1))
  | none => (⟨.crash, "output closed unexpectedly"⟩, now + exitPatience, after)

end Session

/-- A version of the engine that is spoken to through its shell. -/
structure SessionTarget where
  settings : SessionSettings
  launcher : Launcher
  /-- The numbers of the tokens, in order. -/
  nonces : Nat → UInt64
  /-- The files that the engine meets. -/
  tree : FileTree
  session : Option Session := none
  launches : Nat := 0
  exchanges : Nat := 0
  /-- The clock, in nanoseconds. -/
  clock : Nat := 0

namespace SessionTarget

/-- The variable that names the file for coverage. -/
def coverageVariable : String := "DIVERGENT_COVERAGE_FILE"

/-- The file for coverage. -/
def coveragePath : String := "/tmp/.tmpk3v9Qd"

/-- The script in which inputs are staged. -/
def scriptPath : String := "/tmp/divergent-inputT7hB2x.sql"

/-- How long an engine may take to answer for the first time. -/
def startPatience : Nat := Duration.ofSeconds 5

/-- The next token. -/
def token (target : SessionTarget) : String :=
  target.settings.token (target.nonces target.exchanges)

/-- Let time pass. -/
def wait (target : SessionTarget) (nanos : Nat) : SessionTarget :=
  { target with clock := target.clock + nanos }

/-- The files as the last process left them. -/
def files (target : SessionTarget) : FileTree :=
  match target.session with
  | some session => session.tree
  | none => target.tree

/-- The files that remain of a process without those made for it. -/
def leftovers (target : SessionTarget) : FileTree :=
  (target.files.erase (Path.ofText scriptPath).parts).erase (Path.ofText coveragePath).parts

/-- Give the process up. -/
def abandon (target : SessionTarget) : SessionTarget :=
  { target with tree := target.files, session := none }

/-- Launch the engine, with an empty script and, if it reports coverage, a file of zeros. -/
def launch (target : SessionTarget) (capacity : Nat) : Except Failure Session := do
  let settings := target.settings
  if settings.command.isEmpty then
    throw (.because s!"empty command for target '{settings.version}'")
  let tree ←
    if settings.coverageFile then
      (target.tree.write [] coveragePath (List.replicate capacity 0)).mapError
        fun cause => Failure.because cause.message
    else pure target.tree
  let invocation : Invocation := {
    words := settings.command
    directory := settings.workingDirectory
    environment := if settings.coverageFile then [(coverageVariable, coveragePath)] else [] }
  let process ← (target.launcher target.launches tree invocation).mapError fun cause =>
    Failure.because
      s!"Failed to spawn command '{Text.quotedList settings.command}': {cause.message}"
  let tree ← (tree.write [] scriptPath []).mapError fun cause =>
    ⟨["creating input script file", cause.message]⟩
  let system := System.ofProcess process tree target.clock
  if settings.coverageFile then
    let (handle, system) := system.hold (Path.ofText coveragePath).parts
    return { system, coverage := some handle }
  else return { system }

/-- Launch the engine and await its first answer. -/
def start (target : SessionTarget) (capacity : Nat) : Except Failure Session × SessionTarget :=
  match target.launch capacity with
  | .error failure => (.error failure, target)
  | .ok session =>
    let settings := target.settings
    let (heard, session) := session.exchange settings target.clock startPatience target.token
      (settings.setupLines target.token)
    let started :=
      { target with
        launches := target.launches + 1
        exchanges := target.exchanges + 1
        tree := session.tree }
    let failure : Failure :=
      ⟨[s!"starting shell for target '{settings.version}'",
        "no sentinel within " ++ Duration.text startPatience]⟩
    match heard with
    | .complete _ time => (.ok session, { started with clock := time })
    | .silent time => (.error failure, { started with clock := time })
    | .exited time => (.error failure, { started with clock := time })

/-- The outcome of what was heard, when it is known, and the session as it is then. -/
def conclude (settings : SessionSettings) (deadline : Nat) (session : Session) :
    Heard → Outcome × Nat × Session
  | .complete transcript time => (transcript.outcome settings.separator, time, session)
  | .silent time =>
    (.faulted ⟨.timeout, "no sentinel within " ++ Duration.text deadline⟩, time, session)
  | .exited time =>
    let (fault, time, session) := session.exitFault time
    (.faulted fault, time, session)

/-- Have the process execute an input that stands in its script. Where nothing reads the
input the output is of no interest either. -/
def serve (target : SessionTarget) (session : Session) (sink : Sink) (deadline : Nat) :
    Outcome × Sink × SessionTarget :=
  let settings := target.settings
  let (heard, session) :=
    if session.system.isReading then
      session.exchange settings target.clock deadline target.token
        (settings.inputLines scriptPath target.token)
    else (.exited target.clock, session)
  let (outcome, time, session) := conclude settings deadline session heard
  let sink :=
    match session.coverage? sink.map.capacity with
    | none => sink
    | some counts =>
      match sink.map.absorb counts with
      | .ok map => { sink with map }
      | .error _ => sink
  let served :=
    { target with session := some session, exchanges := target.exchanges + 1, clock := time }
  (outcome, sink, if outcome.fault?.isSome then served.abandon else served)

/-- Stage an input for a process whose former output is of no interest, and have it
executed. A session whose input cannot be staged is left to its owner. -/
def stage (target : SessionTarget) (session : Session) (sink : Sink) (input : List UInt8)
    (deadline : Nat) : Outcome × Sink × SessionTarget :=
  let session := (session.idle target.clock).clearCoverage sink.map.capacity
  match session.tree.write [] scriptPath input with
  | .error cause =>
    (.faulted ⟨.crash, "failed to stage input: " ++ cause.message⟩, sink,
      { target with session := some session })
  | .ok tree => target.serve (session.withTree tree) sink deadline

/-- Execute an input, starting the engine if it does not run. -/
def execute (target : SessionTarget) (sink : Sink) (input : List UInt8) (deadline : Nat) :
    Execution SessionTarget :=
  let (started, running) : Except Failure Session × SessionTarget :=
    match target.session with
    | some session => (.ok session, target)
    | none => target.start sink.map.capacity
  match started with
  | .error failure =>
    { target := running
      sink
      ending := .answered (.faulted ⟨.crash, failure.message⟩)
      elapsed := running.clock - target.clock }
  | .ok session =>
    let (outcome, sink, after) := running.stage session sink input deadline
    { target := after, sink, ending := .answered outcome, elapsed := after.clock - target.clock }

theorem capacity_serve (target : SessionTarget) (session : Session) (sink : Sink)
    (deadline : Nat) :
    (target.serve session sink deadline).2.1.map.capacity = sink.map.capacity := by
  unfold serve
  dsimp only
  split
  · rfl
  · split
    next absorbed => exact CoverageMap.capacity_of_absorb absorbed
    next => rfl

/-- Counters read from the file for coverage are added to the map, which keeps its capacity. -/
theorem capacity_execute (target : SessionTarget) (sink : Sink) (input : List UInt8)
    (deadline : Nat) :
    (target.execute sink input deadline).sink.map.capacity = sink.map.capacity := by
  unfold execute
  dsimp only
  split
  · rfl
  · dsimp only [stage]
    split
    · rfl
    · exact capacity_serve _ _ sink deadline

instance : Target SessionTarget where
  version target := target.settings.version
  execute := execute
  recycle target := (.ok (), target.abandon)
  capacity_execute := capacity_execute

end SessionTarget
end Crosscheck
