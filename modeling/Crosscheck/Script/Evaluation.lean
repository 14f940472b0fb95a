import Crosscheck.Script.Builtin

/-!
# Evaluation

What commands do. A simple command is first expanded; then its descriptors are redirected and
its assignments made, and only then is it settled what it is. Whether a failure ends the
script, and whether a process is needed for a command, depends on where the command stands.
-/

namespace Crosscheck.Script

/-- What a simple command is. -/
inductive Role where
  /-- Assignments and redirections only. -/
  | none
  | builtin (command : Builtin)
  | function (body : Command)
  | program

/-- What the words of a simple command come down to. -/
structure Call where
  role : Role
  /-- The words after those that only say how the command is looked for. -/
  words : List (List Char)
  /-- All the words. -/
  shown : List (List Char)
  /-- Whether a mistake ends the script, and assignments remain. -/
  isSpecial : Bool := false
  /-- Whether redirections remain. -/
  isExec : Bool := false
  /-- Where programs are looked for instead of the usual directories. -/
  searchPath : Option (List Char) := .none

/-- The calls of functions that may run at the same time. -/
def maxDepth : Nat := 1000

namespace Interpreter

/-! ## Words -/

/-- The fields of the first word that has any, and the words after it. -/
def firstFields (expander : Expander) : List Word → Shell (List (List Char) × List Word)
  | [] => return ([], [])
  | word :: others => do
    let fields ← expander.fields word
    if fields.isEmpty then firstFields expander others else return (fields, others)

/-- What stands after the options of `command`. -/
structure Designated where
  /-- The fields so far, and the words that are not expanded yet. -/
  fields : List (List Char)
  words : List Word
  /-- The place of the name of the command among the fields, if it is to be run. -/
  start : Option Nat

/-- Read the options of `command`, expanding further words if need be. The fuel bounds the
number of options. -/
def readDesignation (expander : Expander) :
    Nat → Nat → List (List Char) → List Word → Bool → Shell (Designated × Bool)
  | 0, _, fields, words, usual => return (⟨fields, words, .none⟩, usual)
  | fuel + 1, index, fields, words, usual => do
    let (fields, words) ←
      if index < fields.length then pure (fields, words)
      else
        let (more, words) ← firstFields expander words
        pure (fields ++ more, words)
    match fields[index]? with
    | Option.none => return (⟨fields, words, .none⟩, usual)
    | some ['-', '-'] =>
      let (fields, words) ←
        if index + 1 < fields.length then pure (fields, words)
        else
          let (more, words) ← firstFields expander words
          pure (fields ++ more, words)
      let start := if index + 1 < fields.length then some (index + 1) else .none
      return (⟨fields, words, start⟩, usual)
    | some ('-' :: letter :: letters) =>
      if (letter :: letters).all (· == 'p') then
        readDesignation expander fuel (index + 1) fields words true
      else return (⟨fields, words, .none⟩, usual)
    | some _ => return (⟨fields, words, some index⟩, usual)

/-- Expand the words after the name of a command. -/
def expandRest (expander : Expander) (assigns : Bool) : List Word → Shell (List (List Char))
  | [] => return []
  | word :: others => do
    let fields ←
      match if assigns then Reader.assignment? word else .none with
      | some (name, value) => do
        let value ← expander.value value
        pure [name.toList ++ '=' :: value]
      | Option.none => expander.fields word
    return fields ++ (← expandRest expander assigns others)

/-- What fields are, given whether they may call a function. The fuel bounds how often
`command` stands before a command. -/
def identify (expander : Expander) (words : List Word) :
    Nat → Bool → Bool → Option (List Char) → List (List Char) → List (List Char) → Shell Call
  | 0, _, _, _, before, fields =>
    return { role := .none, words := fields, shown := before ++ fields }
  | fuel + 1, mayCall, mayBeSpecial, searchPath, before, fields => do
    let name := String.ofList (fields.headD [])
    let state ← get
    let finish (role : Role) (assigns isSpecial : Bool) : Shell Call := do
      let fields := fields ++ (← expandRest expander assigns words)
      return {
        role, words := fields, shown := before ++ fields, isSpecial, searchPath
        isExec := name = "exec" }
    match if mayCall then state.functions.lookup name else .none with
    | some body => finish (.function body) false false
    | Option.none =>
      match Builtin.find? name with
      | Option.none => finish .program false false
      | some builtin =>
        if name = "command" then
          let (designated, usual) ← readDesignation expander 1000 1 fields words false
          match designated.start with
          | Option.none =>
            let fields := designated.fields ++ (← expandRest expander false designated.words)
            return { role := .builtin builtin, words := fields, shown := before ++ fields, searchPath }
          | some start =>
            let searchPath := if usual then some Program.usualPath else searchPath
            identify expander designated.words fuel false false searchPath
              (before ++ designated.fields.take start) (designated.fields.drop start)
        else finish (.builtin builtin) builtin.assigns (builtin.isSpecial && mayBeSpecial)

/-- Expand the words of a simple command. -/
def call (interpreter : Interpreter) (words : List Word) : Shell Call := do
  let expander := interpreter.expander
  let (fields, others) ← firstFields expander words
  if fields.isEmpty then return { role := .none, words := [], shown := [] }
  identify expander others 1000 true true .none [] fields

/-! ## Assignments -/

/-- Make the assignments before a command; they are shown as they are made. -/
def assignAll (expander : Expander) (passing exported : Bool) :
    List (String × Word) → Shell (List (List Char) × List Hidden)
  | [] => return ([], [])
  | (name, word) :: others => do
    let value ← expander.value word
    let before := (← get).binding? name
    Shell.assign name value
    if passing || exported then
      modify fun state =>
        state.bind name ((state.binding? name).map fun binding => { binding with exported := true })
    let (shown, hidden) ← assignAll expander passing exported others
    return ((name.toList ++ '=' :: value) :: shown, hidden ++ [⟨name, before⟩])

/-- Let variables be again what they were. -/
def reveal (hidden : List Hidden) : Shell Unit :=
  modify fun state =>
    hidden.foldl (fun state hidden => state.bind hidden.name hidden.binding) state

/-- Show a command on the descriptor for messages, as it was before the command redirected
it. -/
def trace (redirected : Bool) (shown : List (List Char)) : Shell Unit := do
  let state ← get
  if state.has 'x' then
    let saved := if redirected then (state.kept.headD []).lookup 2 else .none
    let start := (state.content? "PS4").getD "+ ".toList
    let octets := Text.toOctets (start ++ [' '].intercalate shown ++ ['\n'])
    match saved.getD (state.descriptors.lookup 2) with
    | some handle => discard (Activity.write handle octets)
    | Option.none => pure ()

/-! ## Calls -/

/-- Call a function, which has variables of its own. -/
def callFunction (interpreter : Interpreter) (manner : Manner) (body : Command)
    (arguments : List (List Char)) (hidden : List Hidden) : Shell Unit := do
  let before ← get
  if maxDepth ≤ before.depth then
    Shell.giveUp s!"Maximum function recursion depth ({maxDepth}) reached".toList
  Activity.pause turnTime
  set { before.withArguments arguments with
    loops := 0, depth := before.depth + 1, hidden := some hidden }
  let reset : Shell Unit := modify fun state =>
    { state with
      arguments := before.arguments
      optionIndex := before.optionIndex
      optionOffset := before.optionOffset
      loops := before.loops
      depth := before.depth }
  let step := (interpreter.evaluate body { tested := manner.tested }).ensuring reset
  Shell.restoring
    (tryCatch step fun departure =>
      match departure with
      | .back => pure ()
      | departure => throw departure)
    (do
      reveal ((← get).hidden.getD [])
      modify fun state => { state with hidden := before.hidden })

/-- Run a program, in a process of its own unless there is nothing to do after it. -/
def runProgram (interpreter : Interpreter) (manner : Manner) (call : Call) : Shell Unit := do
  let state ← get
  let name := call.words.headD []
  let searchPath := call.searchPath.getD ((state.content? "PATH").getD [])
  let missing ←
    if name.contains '/' then pure Option.none
    else
      match Program.search (← Activity.look) state.directory .notFound
          (Program.candidates searchPath name) with
      | .ok (path, _) =>
        Shell.noteProgram name path
        pure Option.none
      | .error error => pure (some error)
  match missing with
  | some error =>
    Shell.complain (name ++ (": " ++ Builtin.executionFault error).toList)
    Shell.setStatus 127
  | Option.none =>
    let hasTraps := state.traps.any fun (_, action) => !action.isEmpty
    let step := Builtin.becomeProgram interpreter call.searchPath call.words
    if manner.final && !hasTraps then step
    else
      let child ← interpreter.fork step
      Shell.setStatus (← Shell.awaitAll [child])

/-- Do what a simple command is. -/
def perform (interpreter : Interpreter) (manner : Manner) (call : Call) (hidden : List Hidden) :
    Shell Unit := do
  match call.role with
  | .none => modify fun state => { state with status := state.substituted }
  | .builtin command =>
    let step := Shell.named (call.words.headD []) do
      Shell.setStatus (← command.run interpreter manner (call.words.drop 1))
    match ← step.attempt with
    | .ok () => reveal hidden
    | .error .failure => if call.isSpecial then throw .failure else reveal hidden
    | .error departure =>
      reveal hidden
      throw departure
  | .function body => interpreter.callFunction manner body (call.words.drop 1) hidden
  | .program =>
    interpreter.runProgram manner call
    reveal hidden

/-- Evaluate a simple command. -/
def simple (interpreter : Interpreter) (manner : Manner) (line : Nat)
    (assignments : List (String × Word)) (words : List Word)
    (redirections : List Redirection) : Shell Unit := do
  modify fun state => { state with line, substituted := 0 }
  let expander := interpreter.expander
  let call ← interpreter.call words
  let targets ← expander.targets redirections
  let redirects := !redirections.isEmpty
  let redirected ← if redirects then Shell.redirect expander targets else pure true
  let step : Shell Unit := do
    if redirected then
      let passing :=
        match call.role with
        | .none => false
        | _ => !call.isSpecial
      let exported := call.isExec && 1 < call.words.length
      let (shown, hidden) ← assignAll expander passing exported assignments
      trace redirects (shown ++ call.shown)
      interpreter.perform manner call (if passing then hidden else [])
    else if call.isSpecial then throw .failure
  step.restoring (if !redirects then pure () else if call.isExec then Shell.keepRedirected
    else Shell.restore)

/-! ## Compound commands -/

/-- What a loop makes of a departure from inside it: whether it goes on. -/
def afterTurn : Departure → Shell Bool
  | .leave loops => if loops ≤ 1 then return false else throw (.leave (loops - 1))
  | .again loops => if loops ≤ 1 then return true else throw (.again (loops - 1))
  | departure => throw departure

/-- Do something inside a loop. -/
def inLoop (step : Shell Unit) : Shell Unit := do
  let loops := (← get).loops
  modify fun state => { state with loops := loops + 1 }
  step.ensuring (modify fun state => { state with loops })

/-- Repeat a command as long as a condition allows. The status is that of the last turn. -/
def loop (interpreter : Interpreter) (manner : Manner) (stopsOnSuccess : Bool)
    (condition body : Command) : Shell Unit := do
  let turn (result : Nat) : Shell (Bool × Nat) := do
    interpreter.evaluate condition { tested := true }
    let holds := (← Shell.status) = 0
    if holds == stopsOnSuccess then return (false, result)
    interpreter.evaluate body { tested := manner.tested }
    return (true, ← Shell.status)
  inLoop (repeatedly turn plenty 0)
where
  /-- Take turns, given the status of the last one. -/
  repeatedly (turn : Nat → Shell (Bool × Nat)) : Nat → Nat → Shell Unit
    | 0, result => Shell.setStatus result
    | fuel + 1, result => do
      Activity.pause turnTime
      let (goesOn, result) ← tryCatch (turn result) fun departure => do
        let goesOn ← afterTurn departure
        return (goesOn, ← Shell.status)
      if goesOn then repeatedly turn fuel result else Shell.setStatus result

/-- Evaluate a command for each of some texts. -/
def eachOf (interpreter : Interpreter) (manner : Manner) (name : String) (body : Command) :
    List (List Char) → Shell Unit
  | [] => pure ()
  | value :: others => do
    Activity.pause turnTime
    Shell.assign name value
    let goesOn ←
      tryCatch (do interpreter.evaluate body { tested := manner.tested }; return true) afterTurn
    if goesOn then interpreter.eachOf manner name body others

/-- The first of some arms with a pattern that matches a text. -/
def chooseArm (expander : Expander) (text : List Char) :
    List (List Word × Command) → Shell (Option Command)
  | [] => return .none
  | (patterns, body) :: others => do
    if ← matchesAny patterns then return some body
    chooseArm expander text others
where
  matchesAny : List Word → Shell Bool
    | [] => return false
    | word :: others => do
      if Pattern.isMatch (← expander.pattern word) text then return true
      matchesAny others

/-- Evaluate a command in a process of its own, unless there is nothing to do after it. -/
def evaluateApart (interpreter : Interpreter) (manner : Manner) (line : Nat) (body : Command)
    (redirections : List Redirection) : Shell Unit := do
  modify fun state => { state with line }
  let expander := interpreter.expander
  let targets ← expander.targets redirections
  let step : Shell Unit := do
    modify fun state => { state with kept := [] :: state.kept }
    Shell.redirectAll expander targets
    Shell.keepRedirected
    interpreter.evaluate body { manner with final := true }
  let state ← get
  if manner.final && state.traps.all fun (_, action) => action.isEmpty then
    set (state.apart state.number)
    step
  else
    let child ← interpreter.fork step
    Shell.setStatus (← Shell.awaitAll [child])

/-- Evaluate a command whose descriptors are redirected. That this is not possible is a failure
of its own. -/
def evaluateRedirected (interpreter : Interpreter) (manner : Manner) (line : Nat)
    (body : Command) (redirections : List Redirection) : Shell Unit := do
  modify fun state => { state with line }
  let expander := interpreter.expander
  let targets ← expander.targets redirections
  let redirected ← Shell.redirect expander targets
  let step : Shell Unit := do
    if redirected then interpreter.evaluate body { tested := manner.tested }
  step.restoring Shell.restore
  if !redirected && !manner.tested && (← get).has 'e' then throw .stop

/-- Evaluate a command that stands beside others. -/
def evaluateCommand (interpreter : Interpreter) (manner : Manner) : Command → Shell Unit
  | .nothing => pure ()
  | .simple line assignments words redirections =>
    interpreter.simple manner line assignments words redirections
  | .pipeline stages => interpreter.pipeline manner stages
  | .negate body => do
    interpreter.evaluate body { tested := true }
    Shell.setStatus (if (← Shell.status) = 0 then 1 else 0)
  | .both first second => do
    interpreter.evaluate first { tested := true }
    if (← Shell.status) = 0 then interpreter.evaluate second manner
  | .either first second => do
    interpreter.evaluate first { tested := true }
    if (← Shell.status) ≠ 0 then interpreter.evaluate second manner
  | .sequence first second => do
    interpreter.evaluate first { tested := manner.tested }
    interpreter.evaluate second manner
  | .background body => interpreter.background manner body
  | .branch condition yes no => do
    interpreter.evaluate condition { tested := true }
    if (← Shell.status) = 0 then interpreter.evaluate yes manner
    else
      match no with
      | .nothing => Shell.setStatus 0
      | no => interpreter.evaluate no manner
  | .loop stopsOnSuccess condition body => interpreter.loop manner stopsOnSuccess condition body
  | .each line name words body => do
    modify fun state => { state with line }
    let values ← interpreter.expander.allFields words
    if values.isEmpty then Shell.setStatus 0
    inLoop (interpreter.eachOf manner name body values)
  | .choice line subject arms => do
    modify fun state => { state with line }
    let expander := interpreter.expander
    let text ← expander.text subject
    match ← chooseArm expander text arms with
    | some .nothing => Shell.setStatus 0
    | some body => interpreter.evaluate body manner
    | Option.none => Shell.setStatus 0
  | .define name body => do
    modify fun state =>
      { state with
        functions := (name, body) :: state.functions.filter fun (other, _) => other ≠ name }
    Shell.setStatus 0
  | .apart line body redirections => interpreter.evaluateApart manner line body redirections
  | .redirected line body redirections =>
    interpreter.evaluateRedirected manner line body redirections

/-- Whether a failure of a command ends a script that is to end on failures. -/
def isChecked : Command → Bool
  | .simple .. => true
  | .pipeline _ => true
  | .apart .. => true
  | _ => false

end Interpreter

/-- Evaluate a command. The fuel bounds how deep commands nest; a process that has used it up
ends as one whose stack is full. -/
def evaluate (executor : Executor) : Nat → Command → Manner → Shell Unit
  | 0, _, _ => Shell.become (.exit (.signal 11))
  | fuel + 1, command, manner => do
    let interpreter : Interpreter := ⟨evaluate executor fuel, executor⟩
    interpreter.runTraps
    unless (← get).has 'n' do interpreter.evaluateCommand manner command
    interpreter.runTraps
    let state ← get
    let fails := Interpreter.isChecked command && state.status ≠ 0
    if manner.final || (fails && !manner.tested && state.has 'e') then throw .stop

/-- What evaluates commands, given how programs are executed. -/
def interpreter (executor : Executor) : Interpreter := ⟨evaluate executor plenty, executor⟩

end Crosscheck.Script
