import Crosscheck.Script.Builtin.Basic

/-!
# Where a script is

The commands on the directory of a script and on what the system grants it.
-/

namespace Crosscheck.Script.Builtin

/-- The names of a path, with those taken away that are followed by two dots. -/
def foldNames : List (List Char) → List (List Char) → List (List Char)
  | done, [] => done.reverse
  | done, name :: rest =>
    if name.isEmpty || name = ['.'] then foldNames done rest
    else if name = ['.', '.'] then foldNames (done.drop 1) rest
    else foldNames (name :: done) rest

/-- The path to which a path leads from another one, links disregarded. Two slashes at the
start remain. -/
def resolve (here path : List Char) : List Char :=
  let whole := if path.head? == some '/' then path else here ++ '/' :: path
  let isDouble := "//".toList.isPrefixOf whole && whole[2]? != some '/'
  (if isDouble then ['/'] else []) ++
    '/' :: ['/'].intercalate (foldNames [] (Program.divide '/' whole))

/-- The path of a place. -/
def pathOfPlace (place : Place) : List Char :=
  '/' :: ['/'].intercalate (place.map Text.ofString)

/-- Enter a directory; the answer tells whether there is one. -/
def enter (physical : Bool) (path : List Char) : Shell Bool := do
  let state ← get
  let tree ← Activity.look
  let target := if physical then path else resolve state.path path
  let text := Text.pathOf target
  match tree.hasDirectory state.directory text, tree.locate state.directory text with
  | true, .ok directory =>
    let target := if physical then pathOfPlace directory else target
    let bindPath (name : String) (path : List Char) (state : State) : State :=
      state.bind name (some {
        (state.binding? name).getD { name, value := none } with
        value := some path, exported := true })
    modify fun state =>
      bindPath "PWD" target
        (bindPath "OLDPWD" state.path { state with directory, path := target })
    return true
  | _, _ => return false

/-- Whether a path is not looked for in other directories. -/
def isLocal (path : List Char) : Bool :=
  path.head? == some '/' || path = ['.'] || path = ['.', '.'] ||
    "./".toList.isPrefixOf path || "../".toList.isPrefixOf path

/-- Enter the first of some directories that there is; the answer is the number of those
before it. -/
def enterFirst (physical : Bool) : Nat → List (List Char) → Shell (Option Nat)
  | _, [] => return none
  | index, path :: others => do
    if ← enter physical path then return some index
    enterFirst physical (index + 1) others

/-- Change the directory. -/
def changeDirectory (_ : Interpreter) (_ : Manner) (arguments : List (List Char)) : Shell Nat := do
  let (options, arguments) ← options "LP" arguments
  let physical := (options.getLast?.map Prod.fst) == some 'P'
  let state ← get
  let (path, shows) :=
    match arguments with
    | [] => ((state.content? "HOME").getD [], false)
    | ['-'] :: _ => ((state.content? "OLDPWD").getD [], true)
    | path :: _ => (path, false)
  let shown := path
  let path := if path.isEmpty then ['.'] else path
  let starts := if isLocal path then [] else Program.divide ':' ((state.content? "CDPATH").getD [])
  let candidates := starts.filter (!·.isEmpty) |>.map fun start =>
    if start.getLast? == some '/' then start ++ path else start ++ '/' :: path
  match ← enterFirst physical 0 (candidates ++ [path]) with
  | some index =>
    if shows || index < candidates.length then say ((← get).path ++ ['\n']) else return 0
  | none => Shell.giveUp ("can't cd to ".toList ++ shown)

/-- Show the directory. -/
def showDirectory (_ : Interpreter) (_ : Manner) (arguments : List (List Char)) : Shell Nat := do
  let (options, _) ← options "LP" arguments
  let state ← get
  let physical := (options.getLast?.map Prod.fst) == some 'P'
  say ((if physical then pathOfPlace state.directory else state.path) ++ ['\n'])

/-- A number in base eight with at least four digits. -/
def octal (value : Nat) : List Char :=
  let digits := Nat.toDigits 8 value
  List.replicate (4 - digits.length) '0' ++ digits

/-- The permissions that a mask leaves, in letters. -/
def permissions (mask : Nat) : List Char :=
  let letters (bits : Nat) : List Char :=
    (if bits / 4 % 2 = 0 then ['r'] else []) ++ (if bits / 2 % 2 = 0 then ['w'] else []) ++
      (if bits % 2 = 0 then ['x'] else [])
  "u=".toList ++ letters (mask / 64) ++ ",g=".toList ++ letters (mask / 8) ++
    ",o=".toList ++ letters mask ++ ['\n']

/-- The permissions of a letter for each of three classes of users: those given by name, those
of another class, and those to execute what can be executed. -/
def permissionBits? (mode : Nat) : Char → Option Nat
  | 'r' => some 4
  | 'w' => some 2
  | 'x' => some 1
  | 'X' => some (if mode / 64 % 2 + mode / 8 % 2 + mode % 2 = 0 then 0 else 1)
  | 'u' => some (mode / 64 % 8)
  | 'g' => some (mode / 8 % 8)
  | 'o' => some (mode % 8)
  | 's' => some 0
  | 't' => some 0
  | _ => none

/-- Permissions of some classes changed by an operator. -/
def changeMode (mode : Nat) (classes : List Char) (operator : Char) (bits : Nat) : Nat :=
  let change (letter : Char) (current : Nat) : Nat :=
    if classes.contains letter || classes.contains 'a' || classes.isEmpty then
      match operator with
      | '+' => current ||| bits
      | '-' => current &&& (7 - bits)
      | _ => bits
    else current
  change 'u' (mode / 64 % 8) * 64 + change 'g' (mode / 8 % 8) * 8 + change 'o' (mode % 8)

/-- Permissions after what letters say, given the classes meant. The fuel bounds the number
of letters. -/
def readMode? (classes : List Char) : Nat → Nat → List Char → Option Nat
  | 0, _, _ => none
  | _, mode, [] => some mode
  | fuel + 1, mode, ',' :: rest =>
    let classes := rest.takeWhile "ugoa".toList.contains
    match rest.drop classes.length with
    | [] => none
    | ',' :: _ => none
    | rest => readMode? classes fuel mode rest
  | fuel + 1, mode, operator :: rest =>
    if "+-=".toList.contains operator then do
      let letters := rest.takeWhile fun char => !"+-=,".toList.contains char
      let bits ← letters.mapM (permissionBits? mode)
      readMode? classes fuel (changeMode mode classes operator (bits.foldl (· ||| ·) 0))
        (rest.drop letters.length)
    else none

/-- Show or set the permissions that new files lack. -/
def setMask (_ : Interpreter) (_ : Manner) (arguments : List (List Char)) : Shell Nat := do
  let (options, arguments) ← options "S" arguments
  let mask := (← get).mask
  match arguments with
  | [] => say (if options.isEmpty then octal mask ++ ['\n'] else permissions mask)
  | argument :: _ =>
    if argument.head?.any Char.isDigit then
      unless argument.all Format.isOctal do Shell.giveUp ("Illegal number: ".toList ++ argument)
      modify fun state => { state with mask := Format.valueIn 8 argument % 512 }
    else unless argument.isEmpty do
      match readMode? [] (argument.length + 2) (511 - mask) (',' :: argument) with
      | some mode => modify fun state => { state with mask := 511 - mode }
      | none => Shell.giveUp ("Illegal mode: ".toList ++ argument)
    return 0

/-- The limits that the system sets: the letter, how it is named and its value. -/
def limits : List (Char × String × String) := [
  ('t', "time(seconds)        ", "unlimited"), ('f', "file(blocks)         ", "unlimited"),
  ('d', "data(kbytes)         ", "unlimited"), ('s', "stack(kbytes)        ", "8192"),
  ('c', "coredump(blocks)     ", "0"), ('m', "memory(kbytes)       ", "unlimited"),
  ('l', "locked memory(kbytes) ", "8192"), ('p', "process              ", "unlimited"),
  ('n', "nofiles              ", "1048576"), ('v', "vmemory(kbytes)      ", "unlimited"),
  ('w', "locks                ", "unlimited"), ('r', "rtprio               ", "0")]

/-- Show the limits that the system sets. -/
def showLimits (_ : Interpreter) (_ : Manner) (arguments : List (List Char)) : Shell Nat := do
  let (options, arguments) ← options "HSatfdscmlpnvwr" arguments
  let letters := (options.map Prod.fst).filter fun letter => letter != 'H' && letter != 'S'
  if letters.contains 'a' then
    return ← say (limits.flatMap fun (_, name, value) => (name ++ value ++ "\n").toList)
  unless arguments.isEmpty do return 0
  let letter := letters.getLast?.getD 'f'
  say (((limits.lookup letter).map fun (_, value) => (value ++ "\n").toList).getD [])

/-- Show the time that the script and its processes have used, which is none. -/
def showTimes (_ : Interpreter) (_ : Manner) (_ : List (List Char)) : Shell Nat :=
  let line := "0m0.000000s 0m0.000000s\n".toList
  say (line ++ line)

end Crosscheck.Script.Builtin
