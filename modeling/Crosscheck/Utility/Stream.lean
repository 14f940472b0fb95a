import Crosscheck.Utility.Basic

/-!
# Working on streams

Most utilities work on what they read part by part and keep back what they write until there
is a block of it. A part need not end where a line does.
-/

namespace Crosscheck.Utility

/-- Output that is kept back, latest first. -/
structure Pending where
  latest : List (List Char) := []
  size : Nat := 0

namespace Pending

/-- The text that is kept back. -/
def text (pending : Pending) : List Char := pending.latest.reverse.flatten

/-- Keep more back. -/
def push (pending : Pending) (text : List Char) : Pending :=
  if text.isEmpty then pending else ⟨text :: pending.latest, pending.size + text.length⟩

/-- Write what is kept back. -/
def flush (pending : Pending) : Utility Pending := do
  write pending.text
  return {}

/-- Whether it is enough for a block, or nothing is to be kept back. -/
def isDue (pending : Pending) (eager : Bool) : Bool :=
  4096 ≤ pending.size || (eager && 0 < pending.size)

/-- Write what is kept back if that is due. -/
def settle (pending : Pending) (eager : Bool) : Utility Pending :=
  if pending.isDue eager then pending.flush else return pending

end Pending

/-- Works on a text part by part. -/
structure Transducer (σ : Type) where
  step : σ → List Char → σ × List Char
  /-- What is left to be written at the end. -/
  finish : σ → List Char

/-- Whether the output of programs is not to be kept back. -/
def isEager : Utility Bool := do
  let mode := ((← read).environment.lookup "_STDBUF_O").getD []
  return mode = ['L'] || mode = ['0']

namespace Transducer

variable {σ : Type}

/-- Work on what is read from an open file. The fuel bounds the number of parts. -/
def overHandle (transducer : Transducer σ) (eager : Bool) (handle : Handle) :
    Nat → σ → Pending → Utility (σ × Pending × Option FileError)
  | 0, state, pending => return (state, pending, none)
  | fuel + 1, state, pending => do
    match ← Activity.readSome handle 8192 with
    | .ok [] => return (state, pending, none)
    | .error error => return (state, pending, some error)
    | .ok octets =>
      Activity.pause blockTime
      let (state, text) := transducer.step state (Text.ofOctets octets)
      let pending ← (pending.push text).settle eager
      transducer.overHandle eager handle fuel state pending

/-- How it is told that an operand cannot be opened and that it cannot be read. -/
structure Wording where
  opening : List Char → FileError → Utility Unit := complainOf
  reading : List Char → FileError → Utility Unit := complainOf

/-- Work on the texts of operands. -/
def overOperands (transducer : Transducer σ) (wording : Wording) (eager : Bool) :
    List (List Char) → σ → Pending → Utility (σ × Pending × Nat)
  | [], state, pending => return (state, pending, 0)
  | path :: others, state, pending => do
    match ← openOperand path with
    | .error error =>
      wording.opening path error
      let (state, pending, _) ← transducer.overOperands wording eager others state pending
      return (state, pending, 1)
    | .ok handle =>
      let (state, pending, error) ← transducer.overHandle eager handle plenty state pending
      closeOperand handle
      match error with
      | some error => wording.reading path error
      | none => pure ()
      let (state, pending, status) ← transducer.overOperands wording eager others state pending
      return (state, pending, if error.isSome then 1 else status)

/-- Work on the texts of operands and write what comes of it. -/
def run (transducer : Transducer σ) (start : σ) (operands : List (List Char))
    (wording : Wording := {}) : Utility Nat := do
  let eager ← isEager
  let (state, pending, status) ← transducer.overOperands wording eager (inputs operands) start {}
  discard ((pending.push (transducer.finish state)).flush)
  return status

/-- Works on lines, which are known with their terminators; the last one may lack it. -/
def ofLines (step : σ → List Char → σ × List Char) (finish : σ → List Char) :
    Transducer (σ × List Char) where
  step := fun (state, started) text =>
    let lines := Text.lines (started ++ text)
    let (complete, rest) :=
      match lines.getLast? with
      | some last => if last.getLast? == some '\n' then (lines, []) else (lines.dropLast, last)
      | none => ([], [])
    let (state, parts) := complete.foldl (fun (state, parts) line =>
      let (state, part) := step state line
      (state, part :: parts)) (state, [])
    ((state, rest), parts.reverse.flatten)
  finish := fun (state, started) =>
    if started.isEmpty then finish state
    else
      let (state, part) := step state started
      part ++ finish state

end Transducer

end Crosscheck.Utility
