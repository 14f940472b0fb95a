import Crosscheck.Script.Builtin.Basic

/-!
# Control

The commands that leave those around them, and those that have others evaluated.
-/

namespace Crosscheck.Script.Builtin

/-- Do nothing. -/
def succeed (_ : Interpreter) (_ : Manner) (_ : List (List Char)) : Shell Nat := return 0

/-- Do nothing, with the status of a failure. -/
def failAlways (_ : Interpreter) (_ : Manner) (_ : List (List Char)) : Shell Nat := return 1

/-- End the script. -/
def exitScript (_ : Interpreter) (_ : Manner) (arguments : List (List Char)) : Shell Nat := do
  match arguments with
  | [] => modify fun state => { state with status := state.statusBefore.getD state.status }
  | argument :: _ => Shell.setStatus (← number argument)
  throw .stop

/-- End the running function. -/
def returnFrom (_ : Interpreter) (_ : Manner) (arguments : List (List Char)) : Shell Nat := do
  match arguments with
  | [] => modify fun state => { state with status := state.statusBefore.getD state.status }
  | argument :: _ => Shell.setStatus (← number argument)
  throw .back

/-- Leave a number of loops, of which there may be fewer or none. -/
def leaveLoops (departure : Nat → Departure) (arguments : List (List Char)) : Shell Nat := do
  let count ←
    match arguments with
    | [] => pure 1
    | argument :: _ => do
      let count ← number argument
      if count = 0 then Shell.giveUp ("Illegal number: ".toList ++ argument)
      pure count
  let loops := min count (← get).loops
  if loops = 0 then return 0
  Shell.setStatus 0
  throw (departure loops)

/-- End loops. -/
def breakLoops (_ : Interpreter) (_ : Manner) (arguments : List (List Char)) : Shell Nat :=
  leaveLoops .leave arguments

/-- End the turns of loops. -/
def continueLoops (_ : Interpreter) (_ : Manner) (arguments : List (List Char)) : Shell Nat :=
  leaveLoops .again arguments

/-- Evaluate the arguments as a text. -/
def evaluateText (interpreter : Interpreter) (manner : Manner) (arguments : List (List Char)) :
    Shell Nat := do
  if arguments.isEmpty then return 0
  interpreter.runText { tested := manner.tested } ([' '].intercalate arguments)
  Shell.status

/-- The path of a file that is evaluated. -/
def findText (name : List Char) : Shell (List Char) := do
  if name.contains '/' then return name
  let state ← get
  let tree ← Activity.look
  let searchPath := (state.content? "PATH").getD Program.usualPath
  let found := (Program.candidates searchPath name).find? fun path =>
    tree.hasFile state.directory (Text.pathOf path)
  match found with
  | some path => return path
  | none => Shell.giveUp (name ++ ": not found".toList)

/-- Evaluate the text of a file. -/
def evaluateFile (interpreter : Interpreter) (_ : Manner) (arguments : List (List Char)) :
    Shell Nat := do
  match ← operands arguments with
  | [] => return 0
  | name :: _ =>
    let path ← findText name
    let handle ← Shell.openPath .read true path
    let octets ← Shell.drain handle plenty []
    Activity.release [handle]
    match ← (Shell.named path (interpreter.runText {} (Text.ofOctets octets))).attempt with
    | .error .back => pure ()
    | .error departure => throw departure
    | .ok () => pure ()
    Shell.status

/-- Why a program is not executed. -/
def executionFault (error : FileError) : String :=
  if error = .notFound ∨ error = .notDirectory then "not found" else error.reason

/-- The status after a program could not be executed. -/
def executionStatus (error : FileError) : Nat :=
  if [FileError.notFound, .notDirectory, .tooManyLinks, .nameTooLong].contains error then 127
  else 126

/-- Become a program; there is no way back. -/
def becomeProgram (interpreter : Interpreter) (searchPath : Option (List Char))
    (words : List (List Char)) : Shell Unit := do
  let name := words.headD []
  let state ← get
  let searchPath := searchPath.getD ((state.content? "PATH").getD [])
  let found := Program.find (← Activity.look) state.directory searchPath name
  let error ←
    match found with
    | .ok (path, place) => interpreter.execute place path words
    | .error error => pure error
  Shell.complain (name ++ (": " ++ executionFault error).toList)
  Shell.setStatus (executionStatus error)
  throw .stop

/-- Become a program, or let redirections remain. -/
def execProgram (interpreter : Interpreter) (_ : Manner) (arguments : List (List Char)) :
    Shell Nat := do
  match ← operands arguments with
  | [] => return 0
  | words =>
    becomeProgram interpreter none words
    return 0

end Crosscheck.Script.Builtin
