import Crosscheck.Script.Builtin.Control

/-!
# Names

What the names of commands stand for.
-/

namespace Crosscheck.Script.Builtin

/-- The path of the program of a name. -/
def programPath? (tree : FileTree) (state : State) (searchPath name : List Char) :
    Option (List Char) :=
  if name.contains '/' then
    if (tree.find state.directory (Text.pathOf name)).isOk then some name else none
  else
    match Program.search tree state.directory .notFound (Program.candidates searchPath name) with
    | .ok (path, _) => some path
    | .error _ => none

/-- The alias of a name as a command would define it. -/
def aliasText (name : String) (value : List Char) : List Char :=
  name.toList ++ '=' :: quote value

/-- Tell what a name stands for; the answer is a status. -/
def describe (verbose : Bool) (searchPath name : List Char) : Shell (List Char × Nat) := do
  let state ← get
  let tree ← Activity.look
  let text := String.ofList name
  let tell (long : String) : Shell (List Char × Nat) :=
    return (name ++ (if verbose then long else "").toList ++ ['\n'], 0)
  if Token.keywords.contains text then tell " is a shell keyword"
  else
    match state.aliases.lookup text with
    | some value =>
      return (if verbose then name ++ " is an alias for ".toList ++ value ++ ['\n']
        else "alias ".toList ++ aliasText text value ++ ['\n'], 0)
    | none =>
      if (state.functions.lookup text).isSome then tell " is a shell function"
      else if Reader.specialNames.contains text then tell " is a special shell builtin"
      else if isName text then tell " is a shell builtin"
      else
        match programPath? tree state searchPath name with
        | some path =>
          let known := if (state.located.lookup name).isSome then " is a tracked alias for " else " is "
          unless name.contains '/' do Shell.noteProgram name path
          return (if verbose then name ++ known.toList ++ path ++ ['\n'] else path ++ ['\n'], 0)
        | none => return (if verbose then name ++ ": not found\n".toList else [], 127)

/-- Tell what names stand for. -/
def describeAll (verbose : Bool) (searchPath : List Char) : List (List Char) →
    Shell (List Char × Nat)
  | [] => return ([], 0)
  | name :: others => do
    let (text, status) ← describe verbose searchPath name
    let (more, others) ← describeAll verbose searchPath others
    return (text ++ more, max status others)

/-- Where programs are looked for. -/
def searchPath : Shell (List Char) := return ((← get).content? "PATH").getD []

/-- Tell what names stand for. -/
def tellTypes (_ : Interpreter) (_ : Manner) (arguments : List (List Char)) : Shell Nat := do
  let (text, status) ← describeAll true (← searchPath) arguments
  return max status (← say text)

/-- Tell what a name stands for. To run a command it is not used itself. -/
def tellCommand (_ : Interpreter) (_ : Manner) (arguments : List (List Char)) : Shell Nat := do
  let (options, names) ← options "pvV" arguments
  let letters := options.map Prod.fst
  let searchPath ← if letters.contains 'p' then pure Program.usualPath else searchPath
  match names with
  | [] => return 0
  | name :: _ =>
    if !letters.contains 'v' && !letters.contains 'V' then return 0
    let (text, status) ← describe (letters.contains 'V') searchPath name
    return max status (← say text)

/-- Define aliases or show them. -/
def defineAliases (_ : Interpreter) (_ : Manner) (arguments : List (List Char)) : Shell Nat := do
  if arguments.isEmpty then
    let aliases := (← get).aliases.mergeSort fun left right => precedes left.1 right.1
    return ← say (aliases.flatMap fun (name, value) => aliasText name value ++ ['\n'])
  define arguments
where
  define : List (List Char) → Shell Nat
    | [] => return 0
    | argument :: others => do
      let (name, value) := divideAssignment argument
      let status ←
        match value with
        | some value =>
          modify fun state =>
            { state with
              aliases := (name, value) :: state.aliases.filter fun (other, _) => other ≠ name }
          pure 0
        | none =>
          match (← get).aliases.lookup name with
          | some value => say (aliasText name value ++ ['\n'])
          | none => do
            Shell.writeError ("alias: ".toList ++ argument ++ " not found\n".toList)
            pure 1
      return max status (← define others)

/-- Take aliases away. -/
def removeAliases (_ : Interpreter) (_ : Manner) (arguments : List (List Char)) : Shell Nat := do
  let (options, names) ← options "a" arguments
  unless options.isEmpty do
    modify fun state => { state with aliases := [] }
    return 0
  remove names
where
  remove : List (List Char) → Shell Nat
    | [] => return 0
    | argument :: others => do
      let name := String.ofList argument
      let isKnown := ((← get).aliases.lookup name).isSome
      if isKnown then
        modify fun state =>
          { state with aliases := state.aliases.filter fun (other, _) => other ≠ name }
      else Shell.writeError ("unalias: ".toList ++ argument ++ " not found\n".toList)
      return max (if isKnown then 0 else 1) (← remove others)

/-- Look for programs in advance, or show those that have been found. -/
def lookAhead (_ : Interpreter) (_ : Manner) (arguments : List (List Char)) : Shell Nat := do
  let (options, names) ← options "r" arguments
  unless options.isEmpty do
    modify fun state => { state with located := [] }
    return 0
  if names.isEmpty then
    return ← say ((← get).located.flatMap fun (_, path) => path ++ ['\n'])
  look names
where
  look : List (List Char) → Shell Nat
    | [] => return 0
    | name :: others => do
      let (_, status) ← describe false (← searchPath) name
      if status ≠ 0 then Shell.complain (name ++ ": not found".toList)
      return max (min status 1) (← look others)

end Crosscheck.Script.Builtin
