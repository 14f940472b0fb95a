import Crosscheck.Process.Buffer
import Crosscheck.Process.LineReader
import Crosscheck.Process.Signal

/-!
# Systems

A system runs processes side by side. It keeps what they share: the files, the open files,
the pipes and the time. To compute takes no time; a process goes on until it has to wait for
another one, for input from outside or for the time, or until it ends. Time passes only when
all have to wait, and not beyond the moment up to which somebody listens from outside.
-/

namespace Crosscheck

/-- What an open file leads to. -/
inductive Channel where
  /-- What is written to the first process from outside. -/
  | input
  /-- A stream that is listened to from outside. -/
  | stream (stream : Stream)
  | file (place : Place) (mode : OpenMode) (offset : Nat)
  | pipe (number : Nat) (writes : Bool)
  deriving DecidableEq, Repr

/-- A process among others. -/
structure Task where
  number : Nat
  /-- The process that started it, if that runs here as well. -/
  parent : Option Nat := none
  /-- What it does next. -/
  process : Process
  /-- The time before which it does nothing. -/
  wake : Nat := 0
  handles : List Handle
  provisions : List (Nat × Provision) := []
  /-- Signals that it has not asked for yet. -/
  noted : List Nat := []
  stopped : Bool := false

/-- The provision that a task makes for a signal. -/
def Task.provision (task : Task) (signal : Nat) : Provision :=
  if Signal.isManageable signal then (task.provisions.lookup signal).getD .usual else .usual

/-- The end of a process that may still be asked for. -/
structure EndedTask where
  number : Nat
  parent : Option Nat
  time : Nat
  status : ExitStatus
  deriving DecidableEq, Repr

/-- What runs processes. -/
structure System where
  time : Nat
  tasks : List Task
  endings : List EndedTask := []
  channels : List (Handle × Channel)
  /-- The open files that are used from outside. -/
  held : List Handle := []
  pipes : List (Nat × Buffer) := []
  /-- The number of the next open file or pipe. -/
  nextHandle : Nat := 3
  nextTask : Nat := Process.firstNumber + 1
  /-- What was written from outside and not read. -/
  input : Buffer := {}
  out : LineReader := {}
  err : LineReader := {}
  tree : FileTree
  reception : Reception

namespace System

/-- A system that runs one process. -/
def ofProcess (process : Process) (tree : FileTree) (time : Nat) : System where
  time := time
  tasks := [{ number := Process.firstNumber
              process
              handles := [Handle.input, Stream.out.handle, Stream.err.handle] }]
  channels := [(Handle.input, .input), (Stream.out.handle, .stream .out),
    (Stream.err.handle, .stream .err)]
  tree := tree
  reception := { phase := .absent time }

/-- When and how the first process ended. -/
def ended? (system : System) : Option (Nat × ExitStatus) :=
  (system.endings.find? fun ending => ending.number = Process.firstNumber).map fun ending =>
    (ending.time, ending.status)

/-! ## Streams -/

/-- Let lines arrive. Those that arrive while nobody listens are lost. -/
def deliver (stream : Stream) (system : System) (lines : List (Option String)) : System :=
  lines.foldl (fun system text =>
    match system.reception.take? system.time (stream.line text) with
    | some reception => { system with reception }
    | none => system) system

/-- The reading end of a stream. -/
def reader (system : System) : Stream → LineReader
  | .out => system.out
  | .err => system.err

/-- Replace the reading end of a stream. -/
def setReader (system : System) (stream : Stream) (reader : LineReader) : System :=
  match stream with
  | .out => { system with out := reader }
  | .err => { system with err := reader }

/-- Let octets arrive on an open stream. -/
def accept (system : System) (stream : Stream) (octets : List UInt8) : System :=
  let (lines, reader) := LineReader.feed (system.reader stream).latest octets
  (system.setReader stream reader).deliver stream lines

/-- The end of a stream. -/
def closeStream (system : System) (stream : Stream) : System :=
  (system.setReader stream ⟨[], false⟩).deliver stream (system.reader stream).finish

/-! ## Open files -/

/-- The task of a number. -/
def task? (system : System) (number : Nat) : Option Task :=
  system.tasks.find? fun task => task.number = number

/-- Change the task of a number. -/
def update (system : System) (number : Nat) (change : Task → Task) : System :=
  { system with
    tasks := system.tasks.map fun task => if task.number = number then change task else task }

/-- Whether anybody has use for a handle. -/
def isUsed (system : System) (handle : Handle) : Bool :=
  system.held.contains handle || system.tasks.any fun task => task.handles.contains handle

/-- Open a file that is used from outside. -/
def hold (system : System) (place : Place) : Handle × System :=
  (system.nextHandle,
    { system with
      channels := (system.nextHandle, .file place .update 0) :: system.channels
      held := system.nextHandle :: system.held
      nextHandle := system.nextHandle + 1 })

/-- Where the file stands that an open file leads to. -/
def placeOf? (system : System) (handle : Handle) : Option Place :=
  match system.channels.lookup handle with
  | some (.file place _ _) => some place
  | _ => none

/-- Whether anybody has use for an open file that leads somewhere. -/
def isHeld (system : System) (channel : Channel) : Bool :=
  system.channels.any fun (handle, other) => other == channel && system.isUsed handle

/-- Whether an open file leads to a place. -/
def leadsTo (system : System) (place : Place) : Bool :=
  system.channels.any fun (_, channel) =>
    match channel with
    | .file other _ _ => other = place
    | _ => false

/-- The place of a file that has no name any more: no path leads there. -/
def namelessPlace (handle : Handle) : Place := ["", toString handle]

/-- Whether a place is that of a file that has no name. -/
def isNameless (place : Place) : Bool := place.head? = some ""

/-- Forget the files without a name that nobody has use for. -/
def forgetNameless (system : System) : System :=
  let isOver (place : Place) : Bool := isNameless place && !system.leadsTo place
  if system.tree.nodes.any fun (place, _) => isOver place then
    { system with
      tree := ⟨system.tree.nodes.filter fun (place, _) => !isOver place⟩ }
  else system

/-- Let open files that lead to a place lead to another one. -/
def redirect (system : System) (place target : Place) : System :=
  { system with
    channels := system.channels.map fun (handle, channel) =>
      match channel with
      | .file other mode offset =>
        (handle, .file (if other = place then target else other) mode offset)
      | channel => (handle, channel) }

/-- Let open files that lead to a place keep what stood there, which has no name any more. -/
def unname (system : System) (handle : Handle) (place : Place) (node : Node) : System :=
  let target := namelessPlace handle
  { system with tree := system.tree.put target node }.redirect place target

/-- Let an open file keep what it led to where something else took over the name. -/
def followReplaced (system : System) (before : FileTree) (handle : Handle) : System :=
  match system.placeOf? handle with
  | none => system
  | some place =>
    match before.node? place, system.tree.node? place with
    | some former, some present =>
      let isReplaced := former ≠ present && before.nodes.any fun (other, node) =>
        node = present && (system.tree.node? other).isNone
      if isReplaced then system.unname handle place former else system
    | _, _ => system

/-- Let an open file keep what it led to where that got another name or lost its name. -/
def followMoved (system : System) (before : FileTree) (handle : Handle) : System :=
  match system.placeOf? handle with
  | none => system
  | some place =>
    match before.node? place, system.tree.node? place with
    | some node, none =>
      let moved := system.tree.nodes.find? fun (other, current) =>
        current = node && before.node? other ≠ some node
      match moved with
      | some (target, _) => system.redirect place target
      | none => system.unname handle place node
    | _, _ => system

/-- Let open files keep what they lead to after a change of the names of files. -/
def follow (system : System) (before : FileTree) : System :=
  let handles := system.channels.map Prod.fst
  let system := handles.foldl (fun system handle => system.followReplaced before handle) system
  handles.foldl (fun system handle => system.followMoved before handle) system

/-- Forget the open files that nobody has use for. Streams that nobody writes to any more
end. -/
def settle (system : System) : System :=
  let channels := system.channels.filter fun (handle, _) => system.isUsed handle
  let system := { system with channels }.forgetNameless
  let pipes := system.pipes.filter fun (pipe, _) =>
    system.isHeld (.pipe pipe false) || system.isHeld (.pipe pipe true)
  [Stream.out, Stream.err].foldl (fun system stream =>
      if (system.reader stream).isOpen && !system.isHeld (.stream stream) then
        system.closeStream stream
      else system)
    { system with pipes }

/-- Make an open file lead somewhere. -/
def setChannel (system : System) (handle : Handle) (channel : Channel) : System :=
  { system with
    channels := system.channels.map fun (other, current) =>
      (other, if other = handle then channel else current) }

/-- Replace what waits in a pipe. -/
def setPipe (system : System) (pipe : Nat) (buffer : Buffer) : System :=
  { system with
    pipes := system.pipes.map fun (other, current) =>
      (other, if other = pipe then buffer else current) }

/-- What waits in a pipe. -/
def pipeBuffer (system : System) (pipe : Nat) : Buffer := (system.pipes.lookup pipe).getD {}

/-- Open a file for a process. -/
def openChannel (system : System) (number : Nat) (channel : Channel) : Handle × System :=
  let handle := system.nextHandle
  let system := system.update number fun task => { task with handles := handle :: task.handles }
  (handle, { system with
    channels := (handle, channel) :: system.channels
    nextHandle := handle + 1 })

/-- How many of the octets that are there are read, given whether there will be no more;
`none` if others have to be waited for. -/
abbrev Cut := List UInt8 → Bool → Option Nat

/-- Read up to the end of a line. -/
def Cut.line : Cut := fun octets ended =>
  match octets.findIdx? (· == 10) with
  | some index => some (index + 1)
  | none => if ended then some octets.length else none

/-- Read what is there up to a number of octets. -/
def Cut.upTo (count : Nat) : Cut := fun octets ended =>
  if octets.isEmpty && !ended then none else some count

/-- The zeros that are there when a device is read. -/
def zeros : List UInt8 := List.replicate 65536 0

/-- Read from an open file; `none` if that has to be waited for. -/
def receive? (system : System) (handle : Handle) (cut : Cut) :
    Option (Except FileError (List UInt8) × System) :=
  match system.channels.lookup handle with
  | some .input => do
    let octets := system.input.octets
    let count ← cut octets false
    return (.ok (octets.take count), { system with input := system.input.drop count })
  | some (.pipe pipe false) => do
    let buffer := system.pipeBuffer pipe
    let octets := buffer.octets
    let count ← cut octets (!system.isHeld (.pipe pipe true))
    return (.ok (octets.take count), system.setPipe pipe (buffer.drop count))
  | some (.file place mode offset) =>
    if mode == .write || mode == .append then some (.error .badDescriptor, system)
    else
      match system.tree.node? place with
      | some (.file octets _) => do
        let octets := octets.drop offset
        let count ← cut octets true
        let taken := octets.take count
        return (.ok taken, system.setChannel handle (.file place mode (offset + taken.length)))
      | some .directory => some (.error .isDirectory, system)
      | some (.device device) =>
        if device == .null then some (.ok [], system)
        else do
          let count ← cut zeros false
          return (.ok (zeros.take count), system)
      | _ => some (.ok [], system)
  | _ => some (.error .badDescriptor, system)

/-- Have the octets that were read last from a file read again. -/
def giveBack (system : System) (handle : Handle) (count : Nat) : System :=
  match system.channels.lookup handle with
  | some (.file place mode offset) =>
    system.setChannel handle (.file place mode (offset - count))
  | _ => system

/-- The number of octets of an open file. -/
def measure? (system : System) (handle : Handle) : Option Nat :=
  match system.channels.lookup handle with
  | some (.file place _ _) =>
    match system.tree.node? place with
    | some (.file octets _) => some octets.length
    | _ => none
  | _ => none

/-- The number of octets that a pipe holds. -/
def pipeCapacity : Nat := 65536

/-- Octets with others written over them from an offset on. -/
def overwrite (octets : List UInt8) (offset : Nat) (written : List UInt8) : List UInt8 :=
  octets.take offset ++ List.replicate (offset - octets.length) 0 ++ written ++
    octets.drop (offset + written.length)

/-- What becomes of octets that are written. -/
inductive Sent where
  | taken (system : System)
  /-- Room for the rest has to be waited for. -/
  | partly (rest : List UInt8) (system : System)
  | refused (error : FileError)

/-- Write to an open file. -/
def transmit (system : System) (handle : Handle) (octets : List UInt8) : Sent :=
  match system.channels.lookup handle with
  | some (.stream stream) =>
    if (system.reader stream).isOpen then .taken (system.accept stream octets)
    else .refused .brokenPipe
  | some (.pipe pipe true) =>
    if system.isHeld (.pipe pipe false) then
      let buffer := system.pipeBuffer pipe
      let room := pipeCapacity - buffer.size
      let system := system.setPipe pipe (buffer.push (octets.take room))
      if octets.length ≤ room then .taken system else .partly (octets.drop room) system
    else .refused .brokenPipe
  | some (.file place mode offset) =>
    if mode == .read then .refused .badDescriptor
    else
      match system.tree.node? place with
      | some (.device .full) => .refused .noSpace
      | some (.file held _) =>
        let offset := if mode == .append then held.length else offset
        let tree := system.tree.change place fun held => overwrite held offset octets
        .taken ({ system with tree }.setChannel handle
          (.file place mode (offset + octets.length)))
      | _ => .taken system
  | _ => .refused .badDescriptor

/-! ## Beginnings and ends -/

/-- Start a process that shares the open files of another one. -/
def start (system : System) (parent : Nat) (process : Process) : System :=
  let handles := ((system.task? parent).map Task.handles).getD []
  let provisions := ((system.task? parent).map Task.provisions).getD []
  let task : Task :=
    { number := system.nextTask, parent := some parent, process, handles, provisions }
  { system with tasks := system.tasks ++ [task], nextTask := system.nextTask + 1 }

/-- The end of a process. -/
def finish (system : System) (number : Nat) (status : ExitStatus) : System :=
  match system.task? number with
  | none => system
  | some task =>
    let tasks := system.tasks.filter fun other => other.number ≠ number
    let endings := ⟨number, task.parent, system.time, status⟩ ::
      system.endings.filter fun ending => ending.parent ≠ some number
    { system with tasks, endings }.settle

/-- Let a signal reach a process. -/
def signal (system : System) (signal receiver : Nat) : System :=
  match system.task? receiver with
  | none => system
  | some task =>
    let system :=
      if signal = Signal.proceed then
        system.update receiver fun task => { task with stopped := false }
      else system
    match task.provision signal with
    | .ignored => system
    | .noted => system.update receiver fun task => { task with noted := task.noted ++ [signal] }
    | .usual =>
      match Signal.effect signal with
      | .ignored => system
      | .continued => system
      | .stopped => system.update receiver fun task => { task with stopped := true }
      | .ended => system.finish receiver (.signal signal)

/-- Whether signals are noted for a process. -/
def hasNoted (system : System) (number : Nat) : Bool :=
  (system.task? number).any fun task => !task.noted.isEmpty

/-- Let a process wait with what it does next. -/
def suspend (system : System) (number : Nat) (process : Process) : System :=
  system.update number fun task => { task with process }

/-- The end of a process that another one has started. -/
def ending? (system : System) (parent child : Nat) : Option EndedTask :=
  system.endings.find? fun ending => ending.number = child ∧ ending.parent = some parent

/-- Whether a process still runs that another one has started. -/
def awaits (system : System) (parent child : Nat) : Bool :=
  (system.task? child).any fun task => task.parent = some parent

end System

/-- Let the process of a number go on until it has to wait or ends. -/
def Process.run (number : Nat) : Process → System → System
  | .exit status, system => system.finish number status
  | .write handle octets next, system =>
    if octets.isEmpty then (next none).run number system
    else
      match system.transmit handle octets with
      | .taken system => (next none).run number system
      | .partly rest system => system.suspend number (.write handle rest next)
      | .refused error =>
        if error = .brokenPipe then
          let system := system.signal Signal.brokenPipe number
          if (system.task? number).isSome then (next (some error)).run number system else system
        else (next (some error)).run number system
  | .readLine handle next, system =>
    match system.receive? handle System.Cut.line with
    | some (answer, system) => (next answer).run number system
    | none =>
      if system.hasNoted number then (next (.error .interrupted)).run number system
      else system.suspend number (.readLine handle next)
  | .readSome handle count next, system =>
    match system.receive? handle (System.Cut.upTo count) with
    | some (answer, system) => (next answer).run number system
    | none => system.suspend number (.readSome handle count next)
  | .giveBack handle count next, system =>
    (next ()).run number (system.giveBack handle count)
  | .measure handle next, system => (next (system.measure? handle)).run number system
  | .openFile place mode next, system =>
    let (handle, system) := system.openChannel number (.file place mode 0)
    (next handle).run number system
  | .openPipe next, system =>
    let pipe := system.nextHandle
    let system := { system with
      pipes := (pipe, {}) :: system.pipes
      nextHandle := pipe + 1 }
    let (reader, system) := system.openChannel number (.pipe pipe false)
    let (writer, system) := system.openChannel number (.pipe pipe true)
    (next reader writer).run number system
  | .release handles next, system =>
    let system := system.update number fun task =>
      { task with handles := task.handles.filter (!handles.contains ·) }
    (next ()).run number system.settle
  | .fork child next, system =>
    let started := system.nextTask
    (next started).run number (system.start number (child started))
  | .await child patience next, system =>
    match system.ending? number child with
    | some ending =>
      let endings := system.endings.filter (· ≠ ending)
      (next (some ending.status)).run number { system with endings }
    | none =>
      let waits := system.awaits number child && patience != .none &&
        !(patience == .interruptible && system.hasNoted number)
      if waits then system.suspend number (.await child patience next)
      else (next none).run number system
  | .send signal receiver next, system =>
    let found := (system.task? receiver).isSome ||
      system.endings.any fun ending => ending.number = receiver
    let system := system.signal signal receiver
    match system.task? number with
    | none => system
    | some task =>
      if task.stopped then system.suspend number (next found)
      else (next found).run number system
  | .provide signal provision next, system =>
    let system := system.update number fun task =>
      { task with
        provisions := (signal, provision) :: task.provisions.filter fun (other, _) => other ≠ signal }
    (next ()).run number system
  | .noted next, system =>
    let noted := ((system.task? number).map Task.noted).getD []
    let system := system.update number fun task => { task with noted := [] }
    (next noted).run number system
  | .pause nanos next, system =>
    if nanos = 0 then (next ()).run number system
    else
      system.update number fun task =>
        { task with process := next (), wake := system.time + nanos }
  | .look next, system => (next system.tree).run number system
  | .edit change next, system =>
    (next ()).run number ({ system with tree := change system.tree }.follow system.tree)

namespace System

/-- Whether a task need not wait any longer. -/
def canProceed (system : System) (task : Task) : Bool :=
  !task.stopped && task.wake ≤ system.time &&
    match task.process with
    | .write handle _ _ =>
      match system.channels.lookup handle with
      | some (.pipe pipe true) =>
        (system.pipeBuffer pipe).size < pipeCapacity || !system.isHeld (.pipe pipe false)
      | _ => true
    | .readLine handle _ => !task.noted.isEmpty || (system.receive? handle Cut.line).isSome
    | .readSome handle count _ => (system.receive? handle (Cut.upTo count)).isSome
    | .await child patience _ =>
      !system.awaits task.number child || patience == .none ||
        (patience == .interruptible && !task.noted.isEmpty)
    | _ => true

/-- The next time at which a task stops to wait for the time. -/
def nextWake? (system : System) : Option Nat :=
  ((system.tasks.filter fun task => !task.stopped && system.time < task.wake).map Task.wake).min?

/-- Let the processes go on as long as they can before the moment up to which somebody
listens. The fuel bounds how often one of them goes on. -/
def run : Nat → System → System
  | 0, system => system
  | fuel + 1, system =>
    match system.tasks.find? system.canProceed with
    | some task => run fuel (task.process.run task.number system)
    | none =>
      match system.nextWake? with
      | none => system
      | some time => if time < system.reception.limit then run fuel { system with time } else system

/-- More often than processes can go on while somebody listens. -/
def plenty : Nat := 1000000000000

/-- Write to the first process from outside at a time. -/
def supply (system : System) (time : Nat) (octets : List UInt8) : System :=
  { system with input := system.input.push octets, time := max system.time time }

/-- Whether a process reads what is written from outside. -/
def isReading (system : System) : Bool := system.isHeld .input

end System
end Crosscheck
