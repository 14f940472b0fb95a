import Crosscheck.Process.Signal
import Crosscheck.Utility.Simple

/-!
# Delegating to other programs

The utilities that prepare the setting of another program and go on as that program, or start
it and await its end.
-/

namespace Crosscheck.Utility.Delegate

/-- The path by which a program is found. -/
def searchPath (environment : List (String × List Char)) : List Char :=
  (environment.lookup "PATH").getD Program.usualPath

/-- Execute words in a setting; a file that is no program is read by the shell. -/
def execute (executor : Executor) (setting : Setting) : Activity FileError := do
  match ← Program.execute executor setting with
  | .malformedProgram =>
    let tree ← Activity.look
    let name := setting.words.headD []
    match Program.find tree setting.directory (searchPath setting.environment) name with
    | .ok (path, _) =>
      Program.execute executor
        { setting with words := "/bin/sh".toList :: path :: setting.words.drop 1 }
    | .error error => return error
  | error => return error

/-- The status with which it is told that a program could not be executed. -/
def failureStatus (error : FileError) : Nat := if error = .notFound then 127 else 126

/-- Go on as the program that words name, or say why that is not possible. -/
def goOnAs (executor : Executor) (about : List Char → List Char)
    (environment : List (String × List Char)) (words : List (List Char)) : Utility Nat := do
  let setting ← read
  let error ← execute executor { setting with words, environment }
  fail (about (words.headD []) ++ ": ".toList ++ error.reason.toList) (failureStatus error)

/-- What is said of a program that cannot be run. -/
def cannotRun (name : List Char) : List Char := "failed to run command ".toList ++ quoted name

/-! ## The environment -/

/-- The name and the value that a word assigns. -/
def assignment? (word : List Char) : Option (String × List Char) :=
  if word.contains '=' then
    let name := word.takeWhile (· != '=')
    some (String.ofList name, word.drop (name.length + 1))
  else none

/-- Give a variable a value, in its place if there is one. -/
def assign (environment : List (String × List Char)) (name : String) (value : List Char) :
    List (String × List Char) :=
  if (environment.lookup name).isSome then
    environment.map fun (other, current) => (other, if other = name then value else current)
  else environment ++ [(name, value)]

/-- Run a program in a changed environment. -/
def env (executor : Executor) : Utility Nat := do
  let table : OptionTable := {
    letters := "0iC:u:S:v".toList
    names := [("null", '0'), ("ignore-environment", 'i'), ("chdir", 'C'), ("unset", 'u'),
      ("split-string", 'S')]
    fault := 125, mixed := false }
  let arguments := (← arguments).map fun argument => if argument = ['-'] then ['-', 'i'] else argument
  let (options, operands) ← table.readAll (arguments.length + 1) arguments
  let split := ((value? options 'S').map fun text =>
    (Program.divide ' ' text).filter (!List.isEmpty ·)).getD []
  let operands := split ++ operands
  let setting ← read
  let start := if has options 'i' then [] else setting.environment
  let removed := options.filterMap fun (letter, name) =>
    if letter == 'u' then some (String.ofList name) else none
  let start := start.filter fun (name, _) => !removed.contains name
  let assignments := operands.takeWhile fun word => (assignment? word).isSome
  let environment := (assignments.filterMap assignment?).foldl
    (fun environment (name, value) => assign environment name value) start
  let words := operands.drop assignments.length
  if words.isEmpty then
    let ending := if has options '0' then '\x00' else '\n'
    write (environment.flatMap fun (name, value) =>
      Text.ofString name ++ '=' :: value ++ [ending])
    return 0
  let directory ←
    match value? options 'C' with
    | none => pure setting.directory
    | some path =>
      match (← Activity.look).locateDirectory setting.directory (Text.pathOf path) with
      | .ok place => pure place
      | .error error =>
        fail ("cannot change directory to ".toList ++ quoted path ++ ": ".toList ++
          error.reason.toList) 125
  withReader (fun setting => { setting with directory }) do
    goOnAs executor quoted environment words

/-! ## Other settings -/

/-- Run a program that a lost connection does not end. -/
def nohup (executor : Executor) : Utility Nat := do
  let words ← arguments
  if words.isEmpty then misuse "missing operand".toList 125
  Activity.provide 1 .ignored
  goOnAs executor cannotRun (← read).environment words

/-- Run a program that yields to others. -/
def nice (executor : Executor) : Utility Nat := do
  let words := match ← arguments with
    | ['-', 'n'] :: _ :: words => words
    | ('-' :: _) :: words => words
    | words => words
  if words.isEmpty then
    write ['0', '\n']
    return 0
  goOnAs executor quoted (← read).environment words

/-- Run a program in a session of its own. -/
def setsid (executor : Executor) : Utility Nat := do
  let (_, words) ← OptionTable.read { letters := "cfw".toList, mixed := false }
  if words.isEmpty then misuse "no command specified".toList
  goOnAs executor (fun name => "failed to execute ".toList ++ name) (← read).environment words

/-- Run a program that keeps its output back in another way than usual. -/
def stdbuf (executor : Executor) : Utility Nat := do
  let (options, words) ← OptionTable.read {
    letters := "e:i:o:".toList, names := [("error", 'e'), ("input", 'i'), ("output", 'o')]
    fault := 125, mixed := false }
  if words.isEmpty then misuse "missing operand".toList 125
  if options.isEmpty then misuse "you must specify a buffering mode option".toList 125
  let environment := (← read).environment
  let environment := match value? options 'o' with
    | some mode => assign environment "_STDBUF_O" mode
    | none => environment
  goOnAs executor cannotRun environment words

/-! ## Limits of time -/

/-- The signal by which it is told that the time is over. -/
def alarm : Nat := 14

/-- Start a process that tells another one when a time is over. -/
def startClock (nanos : Nat) (receiver : Nat) : Utility Nat := do
  let handles := (← read).descriptors.map Prod.snd
  Activity.fork fun _ =>
    (do
      Activity.release handles
      Activity.pause nanos
      discard (Activity.send alarm receiver) : Activity Unit) fun () => .exit (.code 0)

/-- Await the end of a process up to the end of a time; `none` if it does not end before. -/
def awaitFor (nanos : Nat) (child : Nat) : Utility (Option ExitStatus) := do
  if nanos = 0 then Activity.await child .unlimited
  else
    Activity.provide alarm .noted
    let clock ← startClock nanos (← read).number
    let ending ← Activity.await child .interruptible
    if ending.isSome then
      discard (Activity.send Signal.kill clock)
    else discard Activity.noted
    discard (Activity.await clock .unlimited)
    return ending

/-- End in the way that another process did. -/
def endLike {α : Type} : ExitStatus → Utility α
  | .code status => exit status
  | .signal number => Activity.exit (.signal number)

/-- Read a span of time. -/
def readSpan (text : List Char) : Utility Nat := do
  match span? text with
  | some nanos => return nanos
  | none => misuse ("invalid time interval ".toList ++ quoted text) 125

/-- Run a program up to the end of a time. -/
def timeout (executor : Executor) : Utility Nat := do
  let (options, operands) ← OptionTable.read {
    letters := "k:s:vpf".toList
    names := [("kill-after", 'k'), ("signal", 's'), ("verbose", 'v'), ("preserve-status", 'p'),
      ("foreground", 'f')]
    fault := 125, mixed := false }
  match operands with
  | [] =>
    hint
    exit 125
  | [_] =>
    hint
    exit 125
  | limit :: words =>
    let signal ←
      match value? options 's' with
      | none => pure Signal.terminate
      | some name =>
        match signal? name with
        | some number => pure number
        | none => misuse (quoted name ++ ": invalid signal".toList) 125
    let grace ← ((value? options 'k').mapM readSpan)
    let nanos ← readSpan limit
    let setting ← read
    let child ← Activity.fork fun number =>
      (goOnAs executor cannotRun setting.environment words).run { setting with number }
        fun status => .exit (.code status)
    let tell (signal : Nat) : Utility Unit := do
      if has options 'v' then
        let name := (Signal.names.find? fun (_, number) => number = signal).map Prod.fst
        complain ("sending signal ".toList ++ (name.getD "").toList ++ " to command ".toList ++
          quoted (words.headD []))
      discard (Activity.send signal child)
    match ← awaitFor nanos child with
    | some ending => endLike ending
    | none =>
      tell signal
      let ending ←
        match grace with
        | none => Activity.await child .unlimited
        | some grace => do
          match ← awaitFor grace child with
          | some ending => pure (some ending)
          | none =>
            tell Signal.kill
            Activity.await child .unlimited
      match ending with
      | some (.signal number) =>
        if number = Signal.kill then endLike (.signal number)
        return if has options 'p' then number + 128 else 124
      | some (.code status) => return if has options 'p' then status else 124
      | none => return 124

/-! ## Arguments from the input -/

/-- A word that is being read, and the words before it, latest first. -/
structure Words where
  word : Option (List Char) := none
  latest : List (List Char) := []

/-- End the word that is being read. -/
def Words.close (words : Words) : Words :=
  match words.word with
  | some word => { latest := word.reverse :: words.latest }
  | none => words

/-- Add a character to the word that is being read. -/
def Words.push (words : Words) (char : Char) : Words :=
  { words with word := some (char :: words.word.getD []) }

/-- Divide a line at blanks, where quotes and backslashes protect them. The answer holds the
quote that is not closed, if any. -/
def splitWords : Option Char → Words → List Char → Except Char (List (List Char))
  | none, words, [] => .ok words.close.latest.reverse
  | some quote, _, [] => .error quote
  | none, words, '\\' :: char :: rest => splitWords none (words.push char) rest
  | none, words, char :: rest =>
    if char == ' ' || char == '\t' || char == '\n' then splitWords none words.close rest
    else if char == '\x27' || char == '\x22' then
      splitWords (some char) { words with word := some (words.word.getD []) } rest
    else splitWords none (words.push char) rest
  | some quote, words, char :: rest =>
    if char == quote then splitWords none words rest
    else splitWords (some quote) (words.push char) rest

/-- A text with another one in place of each occurrence of a mark. The fuel bounds the number of
characters. -/
def replaceAll (mark text : List Char) : Nat → List Char → List Char
  | 0, rest => rest
  | _, [] => []
  | fuel + 1, char :: rest =>
    if !mark.isEmpty && mark.isPrefixOf (char :: rest) then
      text ++ replaceAll mark text fuel ((char :: rest).drop mark.length)
    else char :: replaceAll mark text fuel rest

/-- Groups of a number of words. The fuel bounds the number of groups. -/
def groups (count : Nat) : Nat → List (List Char) → List (List (List Char))
  | 0, _ => []
  | _, [] => []
  | fuel + 1, words => words.take count :: groups count fuel (words.drop count)

/-- Run programs one after another, which read nothing; the answer is the status. -/
def runAll (executor : Executor) (traces : Bool) : List (List (List Char)) → Utility Nat
  | [] => return 0
  | words :: others => do
    let setting ← read
    if traces then discard (writeTo 2 ([' '].intercalate words ++ ['\n']))
    let tree ← Activity.look
    let name := words.headD []
    match Program.find tree setting.directory (searchPath setting.environment) name with
    | .error error =>
      fail (name ++ ": ".toList ++ error.reason.toList) (failureStatus error)
    | .ok _ =>
      let child ← Activity.fork fun number =>
        (do
          match ← Activity.openPath setting.directory setting.descriptors .read
              "/dev/null".toList with
          | .error _ => return 126
          | .ok handle =>
            let descriptors := (0, handle) :: setting.descriptors.filter fun (other, _) => other ≠ 0
            Activity.release ((setting.descriptors.lookup 0).toList.filter fun input =>
              !descriptors.any fun (_, other) => other = input)
            withReader (fun setting => { setting with number, descriptors })
              (goOnAs executor id setting.environment words) : Utility Nat).run setting
          fun status => .exit (.code status)
      match ← Activity.await child .unlimited with
      | some (.signal number) =>
        fail (name ++ ": terminated by signal ".toList ++ Text.digits number) 125
      | some (.code 255) => fail (name ++ ": exited with status 255; aborting".toList) 124
      | some (.code 126) => exit 126
      | some (.code 127) => exit 127
      | some (.code 0) => runAll executor traces others
      | _ => return max 123 (← runAll executor traces others)

/-- Run a program with words from the input as further arguments. -/
def xargs (executor : Executor) : Utility Nat := do
  let (options, operands) ← OptionTable.read {
    letters := "0d:E:I:L:n:P:prs:tx".toList
    names := [("null", '0'), ("delimiter", 'd'), ("max-args", 'n'), ("max-procs", 'P'),
      ("no-run-if-empty", 'r'), ("verbose", 't'), ("replace", 'I'), ("max-lines", 'L')]
    mixed := false }
  let command := if operands.isEmpty then ["echo".toList] else operands
  let text ←
    match ← readOperand ['-'] with
    | .ok text => pure text
    | .error _ => pure []
  let delimiter : Option Char :=
    if has options '0' then some '\x00'
    else (value? options 'd').map fun text =>
      (Script.Format.unescape text.length text).1.headD '\x00'
  let split (text : List Char) : Utility (List (List Char)) := do
    match splitWords none {} text with
    | .ok words => return words
    | .error quote =>
      let kind := if quote == '\x27' then "single" else "double"
      fail (s!"unmatched {kind} quote; by default quotes are special to xargs " ++
        "unless you use the -0 option").toList
  let pieces (char : Char) : List (List Char) :=
    let parts := Program.divide char text
    if parts.getLast? == some [] then parts.dropLast else parts
  let commands ←
    match value? options 'I' with
    | some mark =>
      let lines := pieces (delimiter.getD '\n')
      let lines := lines.map (List.dropWhile fun char => char == ' ' || char == '\t')
      let lines := lines.filter (!List.isEmpty ·)
      pure (lines.map fun line => command.map fun word => replaceAll mark line word.length word)
    | none =>
      let words ←
        match delimiter with
        | some char => pure (pieces char)
        | none => split text
      let lineCount := (value? options 'L').bind number?
      let wordGroups ←
        match lineCount with
        | some count => do
          let lines ← (pieces '\n').mapM split
          let lines := lines.filter (!List.isEmpty ·)
          pure ((List.range ((lines.length + count - 1) / max count 1)).map fun index =>
            ((lines.drop (index * count)).take count).flatten)
        | none =>
          let count := ((value? options 'n').bind number?).getD 5000
          pure (groups (max count 1) (words.length + 1) words)
      let wordGroups :=
        if wordGroups.isEmpty && !has options 'r' then [[]] else wordGroups
      pure (wordGroups.map fun words => command ++ words)
  runAll executor (has options 't') commands

/-- The utilities that run other programs, by name. -/
def table : List (String × (Executor → Utility Nat)) := [
  ("env", env), ("nice", nice), ("nohup", nohup),
  ("setsid", setsid), ("stdbuf", stdbuf), ("timeout", timeout),
  ("xargs", xargs)]

end Crosscheck.Utility.Delegate
