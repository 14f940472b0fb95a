import Crosscheck.Files.Change
import Crosscheck.Utility.Editor.Reader
import Crosscheck.Utility.Stream

/-!
# Running editing scripts

The editor goes through its inputs line by line. With each line the script is done from its
start; then the line is shown as it has become, and after it what was to be appended.
-/

namespace Crosscheck.Utility.Editor

open Text (Regex)

/-- What is shown after a line. -/
inductive Appended where
  | text (text : List Char)
  | file (path : List Char)

/-- How the editor is used. -/
structure Mode where
  quiet : Bool := false
  eager : Bool := false
  /-- Whether each input is one of its own. -/
  separate : Bool := false
  /-- Whether the inputs are replaced by what is shown, with what is added to the names of the
  files as they were. -/
  inPlace : Option (List Char) := none
  terminator : Char := '\n'
  lineLength : Nat := 70
  /-- What stands before messages about the script. -/
  title : List Char := []

/-- What the editor keeps while it runs. -/
structure Machine where
  paths : List (List Char)
  /-- The input that is being read, with its path. -/
  input : Option (Handle × List Char) := none
  /-- What was read of it and not used yet. -/
  ahead : List Char := []
  line : Nat := 0
  space : List Char := []
  /-- Whether the line was terminated. -/
  terminated : Bool := true
  held : List Char := []
  /-- Whether the line that is held was terminated. -/
  heldTerminated : Bool := true
  replaced : Bool := false
  appended : List Appended := []
  /-- The ranges that have begun, by the place of their instruction, with the number of their
  last line if it is known. -/
  active : List (Nat × Option Nat) := []
  lastSearch : Option Search := none
  pending : Pending := {}
  /-- Whether the last line that was shown lacks its terminator. -/
  lacksTerminator : Bool := false
  targets : List (List Char × Handle) := []
  /-- What is left of files that are read line by line. -/
  sources : List (List Char × List (List Char)) := []
  /-- What becomes of the input that is being replaced. -/
  replacement : List Char := []
  status : Nat := 0

/-- A step of the editor. -/
abbrev Run := StateT Machine Utility

/-- How a turn ends. -/
inductive Ending where
  /-- The line is shown, or not. -/
  | done (shows : Bool)
  /-- The script starts again with what is left of the line. -/
  | again
  | quit (shows : Bool) (status : Nat)

/-- How an instruction ends. -/
inductive Flow where
  | next
  | goTo (place : Nat)
  | leave (ending : Ending)

namespace Run

/-! ## Output -/

/-- Say what went wrong with a file and end. -/
def breakOff {α : Type} (about : List Char) (error : FileError) : Run α :=
  (Utility.fail (about ++ ": ".toList ++ error.reason.toList) 4 : Utility α)

/-- Write what is kept back. -/
def flush : Run Unit := do
  match ← (Utility.writeTo 1 (← get).pending.text : Utility (Option FileError)) with
  | none => modify fun machine => { machine with pending := {} }
  | some error => breakOff "couldn't flush stdout".toList error

/-- Show a text. -/
def emit (mode : Mode) (text : List Char) : Run Unit := do
  if mode.inPlace.isSome then
    modify fun machine => { machine with replacement := machine.replacement ++ text }
  else
    let pending := (← get).pending.push text
    modify fun machine => { machine with pending }
    if pending.isDue mode.eager then flush

/-- Show the terminator that the last line lacks. -/
def complete (mode : Mode) : Run Unit := do
  if (← get).lacksTerminator then
    emit mode [mode.terminator]
    modify fun machine => { machine with lacksTerminator := false }

/-- Show a text after whatever was shown before. -/
def showText (mode : Mode) (text : List Char) : Run Unit := do
  complete mode
  emit mode text

/-- Show a line, which lacks its terminator if the input did. -/
def showLine (mode : Mode) (line : List Char) : Run Unit := do
  complete mode
  if (← get).terminated then emit mode (line ++ [mode.terminator])
  else
    emit mode line
    modify fun machine => { machine with lacksTerminator := true }

/-- Write a text to a target. -/
def writeTarget (mode : Mode) (target : Target) (text : List Char) : Run Unit := do
  match target with
  | .out => showText mode text
  | .err => discard (Utility.writeTo 2 text : Utility (Option FileError))
  | .file path =>
    match (← get).targets.lookup path with
    | some handle => discard (Activity.write handle (Text.toOctets text))
    | none => pure ()

/-! ## Input -/

/-- The end of an input, which is replaced if that is asked for. -/
def finishInput (mode : Mode) (handle : Handle) (path : List Char) : Run Unit := do
  (Utility.closeOperand handle : Utility Unit)
  match mode.inPlace with
  | none => pure ()
  | some suffix =>
    let here := (← (read : Utility Setting)).directory
    let octets := Text.toOctets (← get).replacement
    let executable := match (← Activity.look).find here (Text.pathOf path) with
      | .ok (.file _ executable) => executable
      | _ => false
    let draft := Text.pathOf (path ++ "~".toList)
    discard (Activity.attempt fun tree => do
      (← tree.write here draft octets).setExecutable here draft executable)
    unless suffix.isEmpty do
      discard (Activity.attempt fun tree =>
        tree.rename here (Text.pathOf path) (Text.pathOf (path ++ suffix)))
    discard (Activity.attempt fun tree => tree.rename here draft (Text.pathOf path))
    modify fun machine => { machine with replacement := [], lacksTerminator := false }
  modify fun machine => { machine with input := none }

/-- Open the next input; the answer tells whether there is one. -/
def openNext : List (List Char) → Run Bool
  | [] => do
    modify fun machine => { machine with paths := [] }
    return false
  | path :: others => do
    match ← (Utility.openOperand path : Utility (Except FileError Handle)) with
    | .ok handle =>
      modify fun machine => { machine with paths := others, input := some (handle, path) }
      return true
    | .error error =>
      if path = ['-'] then breakOff "read error on stdin".toList error
      (Utility.complain ("can't read ".toList ++ path ++ ": ".toList ++ error.reason.toList) :
        Utility Unit)
      modify fun machine => { machine with status := 2 }
      openNext others

/-- What an input is called. -/
def titleOf (path : List Char) : List Char := if path = ['-'] then "stdin".toList else path

/-- Read more of the present input; the answer tells whether there was any. -/
def readMore (mode : Mode) (byLine : Bool) : Run Bool := do
  match (← get).input with
  | none => return false
  | some (handle, path) =>
    let answer : Except FileError (List UInt8) ←
      if !mode.eager then Activity.readSome handle 4096
      else if byLine && mode.terminator == '\n' then Activity.readLine handle
      else Activity.readSome handle 1
    match answer with
    | .ok [] => return false
    | .ok octets =>
      Activity.pause (if mode.eager then 0 else blockTime)
      modify fun machine => { machine with ahead := machine.ahead ++ Text.ofOctets octets }
      return true
    | .error error => breakOff ("read error on ".toList ++ titleOf path) error

/-- Whether there is more of the present input. -/
def hasMoreHere (mode : Mode) : Run Bool := do
  if !(← get).ahead.isEmpty then return true
  readMore mode false

/-- Whether there is more input. The fuel bounds the number of inputs. -/
def hasMore (mode : Mode) : Nat → Run Bool
  | 0 => return false
  | fuel + 1 => do
    if ← hasMoreHere mode then return true
    let machine ← get
    match machine.input with
    | some (handle, path) => finishInput mode handle path
    | none => pure ()
    unless ← openNext machine.paths do return false
    if mode.separate then
      modify fun machine => { machine with line := 0, active := [] }
    hasMore mode fuel

/-- Whether there is more input, in a mode in which an input that is not separate from the
next one need not be the last. -/
def anyMore (mode : Mode) : Run Bool := do hasMore mode ((← get).paths.length + 2)

/-- Whether the line is the last one. -/
def isLast (mode : Mode) : Run Bool := do
  if mode.separate then return !(← hasMoreHere mode)
  return !(← anyMore mode)

/-- Take a line from what was read, reading on as long as it is not complete. The fuel bounds
the number of parts. -/
def takeLine (mode : Mode) : Nat → Run (List Char × Bool)
  | 0 => return ([], true)
  | fuel + 1 => do
    let ahead := (← get).ahead
    let line := ahead.takeWhile (· != mode.terminator)
    if line.length < ahead.length then
      modify fun machine => { machine with ahead := ahead.drop (line.length + 1) }
      return (line, true)
    if ← readMore mode true then takeLine mode fuel
    else
      modify fun machine => { machine with ahead := [] }
      return (line, false)

/-- Show what was to be appended. -/
def showAppended (mode : Mode) : Run Unit := do
  let appended := (← get).appended
  modify fun machine => { machine with appended := [] }
  appended.forM fun item => do
    match item with
    | .text text => showText mode text
    | .file path =>
      complete mode
      match ← (Utility.readOperand path : Utility (Except FileError (List Char))) with
      | .ok text => emit mode text
      | .error _ => pure ()

/-- Read the next line; the answer tells whether there is one. -/
def readNext (mode : Mode) (appends : Bool) : Run Bool := do
  unless ← anyMore mode do return false
  showAppended mode
  let (line, terminated) ← takeLine mode plenty
  modify fun machine =>
    { machine with
      space := if appends then machine.space ++ mode.terminator :: line else line
      terminated
      replaced := false
      line := machine.line + 1 }
  return true

/-! ## Selection -/

/-- Fill in the last expression that was used. -/
def resolve (mode : Mode) (search : Search) : Run Search := do
  match search.regex with
  | some _ =>
    modify fun machine => { machine with lastSearch := some search }
    return search
  | none =>
    match (← get).lastSearch with
    | some last => return last
    | none => do
      let about := mode.title ++ "char 0: no previous regular expression".toList
      (Utility.fail about : Utility Search)

/-- The line as a text in which matches are looked for. -/
def subject (search : Search) : Run Regex.Subject := do
  return {
    chars := (← get).space.toArray, ignoresCase := search.ignoresCase, hasLines := search.hasLines }

/-- Whether an address selects the line. -/
def meets (mode : Mode) (address : Address) : Run Bool := do
  let line := (← get).line
  match address with
  | .line number => return line = number
  | .every first step =>
    return if step = 0 then line = first else first ≤ line && (line - first) % step = 0
  | .last => isLast mode
  | .search search =>
    let search ← resolve mode search
    match search.regex with
    | some regex => return (regex.search? (← subject search) 0).isSome
    | none => return false

/-- The number of the last line of a range that begins, if it is known. -/
def lastLine? (line : Nat) : RangeEnd → Option Nat
  | .address (.line number) => some number
  | .address _ => none
  | .later count => some (line + count)
  | .multiple divisor =>
    if divisor = 0 then some line else some ((line + divisor - 1) / divisor * divisor)

/-- Whether an instruction at a place is done with the line. -/
def selects (mode : Mode) (place : Nat) : Selection → Run Bool
  | .all => return true
  | .one address => meets mode address
  | .range first last => do
    let machine ← get
    let line := machine.line
    let setActive (value : Option (Option Nat)) : Run Unit :=
      modify fun machine =>
        { machine with
          active := (value.map fun value => (place, value)).toList ++
            machine.active.filter fun (other, _) => other ≠ place }
    let started := machine.active.lookup place
    let started := if first.isNone && line = 1 && started.isNone then some none else started
    match started with
    | some (some number) =>
      if number ≤ line then setActive none
      if line ≤ number then return true
      match first with
      | some (.line start) => return line = start
      | _ => return false
    | some none =>
      match last with
      | .address address =>
        if ← meets mode address then setActive none else setActive (some none)
      | _ => pure ()
      return true
    | none =>
      match first with
      | none => return false
      | some address =>
        unless ← meets mode address do return false
        match lastLine? line last with
        | some number =>
          if line < number then setActive (some (some number))
        | none => setActive (some none)
        return true

/-! ## Substitution -/

/-- A letter as a change asks for it. -/
def changeLetter (upper : Bool) (char : Char) : Char :=
  if upper then char.toUpper else char.toLower

/-- The text of a replacement, given how letters are changed from here on and how the next
one is. -/
def fill (subject : Regex.Subject) (found : Regex.Match) :
    Option Bool → Option Bool → List Replacement → List Char
  | _, _, [] => []
  | change, once, part :: rest =>
    let write (text : List Char) : List Char :=
      let changed := (change.map fun upper => text.map (changeLetter upper)).getD text
      match once, changed with
      | some upper, first :: others => changeLetter upper first :: others
      | _, changed => changed
    match part with
    | .text text => write text ++ fill subject found change (if text.isEmpty then once else none) rest
    | .group number =>
      let text := found.group subject number
      write text ++ fill subject found change (if text.isEmpty then once else none) rest
    | .change change => fill subject found change none rest
    | .changeNext upper => fill subject found change (some upper) rest

/-- Replace matches from a place on, given how many there were before and where the last one
ended. The fuel bounds the number of matches. -/
def replaceFrom (substitution : Substitution) (regex : Regex) (subject : Regex.Subject) :
    Nat → Nat → Nat → Option Nat → List Char × Bool
  | 0, start, _, _ => (subject.slice start subject.chars.size, false)
  | fuel + 1, start, count, last =>
    let rest := subject.slice start subject.chars.size
    if subject.chars.size < start then ([], false)
    else
      match regex.search? subject start with
      | none => (rest, false)
      | some found =>
        let before := subject.slice start found.first
        let isEmpty := found.first = found.last
        let skipped := if isEmpty then subject.slice found.last (found.last + 1) else []
        let next := if isEmpty then found.last + 1 else found.last
        if isEmpty && last == some found.first then
          let (text, replaced) := replaceFrom substitution regex subject fuel next count none
          (before ++ skipped ++ text, replaced)
        else if count + 1 < substitution.first then
          let (text, replaced) :=
            replaceFrom substitution regex subject fuel next (count + 1) (some found.last)
          (before ++ subject.slice found.first found.last ++ skipped ++ text, replaced)
        else
          let filled := fill subject found none none substitution.replacement
          if substitution.isGlobal then
            let (text, _) :=
              replaceFrom substitution regex subject fuel next (count + 1) (some found.last)
            (before ++ filled ++ skipped ++ text, true)
          else (before ++ filled ++ subject.slice found.last subject.chars.size, true)

/-- Substitute in the line. -/
def substitute (mode : Mode) (substitution : Substitution) : Run Unit := do
  let search ← resolve mode substitution.search
  let search :=
    { search with
      ignoresCase := search.ignoresCase || substitution.search.ignoresCase
      hasLines := search.hasLines || substitution.search.hasLines }
  match search.regex with
  | none => pure ()
  | some regex =>
    let subject ← subject search
    let (space, replaced) :=
      replaceFrom substitution regex subject (subject.chars.size + 2) 0 0 none
    if replaced then
      modify fun machine => { machine with space, replaced := true }
      if 0 < substitution.prints then showLine mode space
      match substitution.target with
      | some target => writeTarget mode target (space ++ [mode.terminator])
      | none => pure ()

/-! ## Instructions -/

/-- A character as it is shown where nothing may be misread. -/
def unambiguous (char : Char) : List Char :=
  match char with
  | '\\' => ['\\', '\\']
  | '\x07' => ['\\', 'a']
  | '\x08' => ['\\', 'b']
  | '\x0c' => ['\\', 'f']
  | '\n' => ['\\', 'n']
  | '\x0d' => ['\\', 'r']
  | '\t' => ['\\', 't']
  | '\x0b' => ['\\', 'v']
  | char =>
    if ' ' ≤ char && char ≤ '~' then [char]
    else
      let digits := Nat.toDigits 8 char.toNat
      '\\' :: List.replicate (3 - digits.length) '0' ++ digits

/-- Texts in lines of less than a number of characters, given how many the line has; zero
stands for no limit. -/
def wrap (limit : Nat) : Nat → List (List Char) → List Char
  | _, [] => ['$', '\n']
  | width, part :: rest =>
    if 0 < limit && limit ≤ width + part.length then
      '\\' :: '\n' :: part ++ wrap limit part.length rest
    else part ++ wrap limit (width + part.length) rest

/-- The place of a label, the end of the script without one. -/
def placeOf (script : Script) (label : Option (List Char)) : Nat :=
  (label.bind fun label => script.labels.lookup label).getD script.instructions.size

/-- The next line of a file that is read line by line. -/
def nextLineOf (path : List Char) : Run (Option (List Char)) := do
  let machine ← get
  let lines ←
    match machine.sources.lookup path with
    | some lines => pure lines
    | none => do
      match ← (Utility.readOperand path : Utility (Except FileError (List Char))) with
      | .ok text => pure (plainLines text)
      | .error _ => pure []
  modify fun machine =>
    { machine with
      sources := (path, lines.drop 1) :: machine.sources.filter fun (other, _) => other ≠ path }
  return lines.head?

/-- Do what an instruction says. -/
def perform (mode : Mode) (script : Script) (place : Nat) : Action → Run Flow
  | .block _ => return .next
  | .jump label => return .goTo (placeOf script label)
  | .jumpIf wanted label => do
    let replaced := (← get).replaced
    modify fun machine => { machine with replaced := false }
    return if replaced == wanted then .goTo (placeOf script label) else .next
  | .append text => do
    modify fun machine => { machine with appended := machine.appended ++ [.text text] }
    return .next
  | .insert text => do
    showText mode text
    return .next
  | .change text => do
    if ((← get).active.lookup place).isNone then showText mode text
    return .leave (.done false)
  | .delete => return .leave (.done false)
  | .deleteFirst => do
    let space := (← get).space
    if space.contains '\n' then
      modify fun machine =>
        { machine with space := (space.dropWhile (· != '\n')).drop 1 }
      return .leave .again
    return .leave (.done false)
  | .print => do
    showLine mode (← get).space
    return .next
  | .printFirst => do
    showText mode ((← get).space.takeWhile (· != '\n') ++ [mode.terminator])
    return .next
  | .next => do
    unless ← anyMore mode do return .leave (.quit true 0)
    unless mode.quiet do showLine mode (← get).space
    discard (readNext mode false)
    return .next
  | .appendNext => do
    if ← readNext mode true then return .next
    return .leave (.quit true 0)
  | .hold appends => do
    modify fun machine =>
      { machine with
        held := if appends then machine.held ++ '\n' :: machine.space else machine.space
        heldTerminated := machine.terminated }
    return .next
  | .fetch appends => do
    modify fun machine =>
      { machine with
        space := if appends then machine.space ++ '\n' :: machine.held else machine.held
        terminated := machine.heldTerminated }
    return .next
  | .exchange => do
    modify fun machine =>
      { machine with
        space := machine.held
        terminated := machine.heldTerminated
        held := machine.space
        heldTerminated := machine.terminated }
    return .next
  | .clear => do
    modify fun machine => { machine with space := [] }
    return .next
  | .showLine length => do
    let length := length.getD mode.lineLength
    showText mode (wrap length 0 ((← get).space.map unambiguous))
    return .next
  | .showNumber => do
    showText mode (Text.digits (← get).line ++ ['\n'])
    return .next
  | .showName => do
    showText mode ((((← get).input.map Prod.snd).getD ['-']) ++ ['\n'])
    return .next
  | .quit prints status => return .leave (.quit prints status)
  | .readFile path => do
    modify fun machine => { machine with appended := machine.appended ++ [.file path] }
    return .next
  | .readLine path => do
    match ← nextLineOf path with
    | some line =>
      modify fun machine =>
        { machine with appended := machine.appended ++ [.text (line ++ ['\n'])] }
    | none => pure ()
    return .next
  | .write first target => do
    let space := (← get).space
    writeTarget mode target ((if first then space.takeWhile (· != '\n') else space) ++ ['\n'])
    return .next
  | .substitute substitution => do
    substitute mode substitution
    return .next
  | .transliterate pairs => do
    modify fun machine =>
      { machine with space := machine.space.map fun char => (pairs.lookup char).getD char }
    return .next
  | .nothing => return .next

/-- Do the script from a place on. The fuel bounds the number of instructions. -/
def execute (mode : Mode) (script : Script) : Nat → Nat → Run Ending
  | 0, _ => return .quit false 1
  | fuel + 1, place => do
    match script.instructions[place]? with
    | none => return .done true
    | some instruction =>
      let selected ← selects mode place instruction.selection
      if selected != instruction.negated then
        match ← perform mode script place instruction.action with
        | .next => execute mode script fuel (place + 1)
        | .goTo target =>
          Activity.pause 1000
          execute mode script fuel target
        | .leave ending => return ending
      else
        match instruction.action with
        | .block after => execute mode script fuel after
        | _ => execute mode script fuel (place + 1)

/-- Show the line as it has become, unless that is not wanted. -/
def finishTurn (mode : Mode) (shows : Bool) : Run Unit := do
  if shows && !mode.quiet then showLine mode (← get).space
  showAppended mode

/-- Go through the lines. The fuel bounds their number. -/
def turns (mode : Mode) (script : Script) : Nat → Bool → Run Nat
  | 0, _ => return 0
  | fuel + 1, again => do
    let found ← if again then pure true else readNext mode false
    unless found do return (← get).status
    match ← execute mode script plenty 0 with
    | .done shows =>
      finishTurn mode shows
      turns mode script fuel false
    | .again =>
      showAppended mode
      turns mode script fuel true
    | .quit shows status =>
      finishTurn mode shows
      return max status (← get).status

/-- What remains to be done at the end. -/
def finish (mode : Mode) : Run Unit := do
  let machine ← get
  match machine.input with
  | some (handle, path) =>
    if mode.inPlace.isSome then
      discard (readMore mode false)
      emit mode (← get).ahead
    else Activity.giveBack handle machine.ahead.length
    finishInput mode handle path
  | none => pure ()
  flush

end Run

/-- The files that a script writes to. -/
def Script.targets (script : Script) : List (List Char) :=
  (script.instructions.toList.filterMap fun instruction =>
    match instruction.action with
    | .write _ (.file path) => some path
    | .substitute substitution =>
      match substitution.target with
      | some (.file path) => some path
      | _ => none
    | _ => none).eraseDups

/-- The labels that a script jumps to without having them. -/
def Script.missingLabels (script : Script) : List (List Char) :=
  script.instructions.toList.filterMap fun instruction =>
    let label : Option (List Char) :=
      match instruction.action with
      | .jump label => label
      | .jumpIf _ label => label
      | _ => none
    label.filter fun label => (script.labels.lookup label).isNone

/-- Open the files that a script writes to. -/
def openTargets : List (List Char) → Utility (List (List Char × Handle))
  | [] => return []
  | path :: others => do
    let setting ← read
    match ← Activity.openPath setting.directory setting.descriptors .write path with
    | .ok handle => return (path, handle) :: (← openTargets others)
    | .error error =>
      fail ("couldn't open file ".toList ++ path ++ ": ".toList ++ error.reason.toList) 4

/-- A part of a script, which is given by an option. -/
structure Part where
  text : List Char
  /-- The file that it stands in, if any. -/
  path : Option (List Char) := none

/-- The parts of the script that options give. -/
def givenParts : List OptionValue → Utility (List Part)
  | [] => return []
  | (letter, value) :: others => do
    let here : List Part ←
      if letter == 'e' then pure [⟨value, none⟩]
      else if letter == 'f' then
        match ← readOperand value with
        | .ok text => pure [⟨withoutTerminator text, some value⟩]
        | .error error =>
          fail ("couldn't open file ".toList ++ value ++ ": ".toList ++ error.reason.toList) 4
      else pure []
    return here ++ (← givenParts others)

/-- Where in a script something is wrong, given how many of its parts stood before that are in
no file. -/
def Fault.title (fault : Fault) : Nat → Nat → List Part → List Char
  | number, _, [] => "-e expression #".toList ++ Text.digits number ++ ", ".toList
  | number, place, part :: others =>
    if part.text.length < place && !others.isEmpty then
      let number := if part.path.isNone then number + 1 else number
      fault.title number (place - (part.text.length + 1)) others
    else
      match part.path with
      | none =>
        let place := if fault.isOpen then 0 else place
        "-e expression #".toList ++ Text.digits (number + 1) ++ ", char ".toList ++
          Text.digits place ++ ": ".toList
      | some path =>
        let line := (part.text.take (place - 1)).countP (· == '\n') + 1
        "file ".toList ++ path ++ " line ".toList ++ Text.digits line ++ ": ".toList

/-- How the editor is used. -/
def usage : List Char :=
  "Usage: sed [OPTION]... \x7bscript-only-if-no-other-script\x7d [input-file]...\n\n".toList

/-- The options before which an argument may stand that belongs to the option itself. -/
def splitInPlace (arguments : List (List Char)) : Option (List Char) × List (List Char) :=
  arguments.foldr (fun argument (suffix, others) =>
    match argument with
    | '-' :: 'i' :: rest => (some rest, others)
    | '-' :: 'n' :: 'i' :: rest => (some rest, ['-', 'n'] :: others)
    | '-' :: 'E' :: 'i' :: rest => (some rest, ['-', 'E'] :: others)
    | _ =>
      if argument = "--in-place".toList then (some [], others) else (suffix, argument :: others))
    (none, [])

/-- Edit the inputs. -/
def edit : Utility Nat := do
  let table : OptionTable := {
    letters := "bnrEsuze:f:l:".toList
    names := [("quiet", 'n'), ("silent", 'n'), ("expression", 'e'), ("file", 'f'),
      ("regexp-extended", 'E'), ("separate", 's'), ("unbuffered", 'u'), ("null-data", 'z'),
      ("line-length", 'l'), ("posix", 'b')]
    usage := some usage }
  let (inPlace, arguments) := splitInPlace (← arguments)
  let (options, operands) ← table.readAll (arguments.length + 1) arguments
  let isGiven := has options 'e' || has options 'f'
  let (parts, operands) : List Part × List (List Char) ←
    if isGiven then do pure ((← givenParts options), operands)
    else
      match operands with
      | [] => do
        discard (writeTo 2 usage)
        exit 1
      | text :: operands => pure ([⟨text, none⟩], operands)
  let text := ['\n'].intercalate (parts.map Part.text)
  match Script.read (has options 'E' || has options 'r') text with
  | .error fault => fail (fault.title 0 fault.place parts ++ fault.about)
  | .ok script =>
    match script.missingLabels with
    | label :: _ => fail ("can't find label for jump to \x60".toList ++ label ++ ['\x27']) 4
    | [] => pure ()
    if inPlace.isSome && operands.isEmpty then fail "no input files".toList 4
    let mode : Mode := {
      quiet := has options 'n' || script.quiet
      eager := has options 'u' || (← isEager)
      separate := has options 's' || inPlace.isSome
      inPlace
      terminator := if has options 'z' then '\x00' else '\n'
      lineLength := ((value? options 'l').bind number?).getD 70
      title := "-e expression #".toList ++ Text.digits (parts.countP fun part => part.path.isNone) ++
        ", ".toList }
    let machine : Machine := {
      paths := inputs operands, targets := ← openTargets script.targets }
    let (status, _) ← (do
      let status ← Run.turns mode script plenty false
      Run.finish mode
      return status : Run Nat).run machine
    return status

end Crosscheck.Utility.Editor
