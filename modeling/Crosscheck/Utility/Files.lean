import Crosscheck.Files.Change
import Crosscheck.Script.Builtin.Location
import Crosscheck.Utility.Basic

/-!
# Files

The utilities that create files and directories, take them away and say what there is.
-/

namespace Crosscheck.Utility.Files

open Text (pathOf)

/-- The reason of a refusal, after what was refused. -/
def because (about : List Char) (error : FileError) : List Char :=
  about ++ ": ".toList ++ error.reason.toList

/-- Say that something could not be done to a path. -/
def refuse (about : String) (path : List Char) (error : FileError) : Utility Nat := do
  complain (because (about.toList ++ quoted path) error)
  return 1

/-- Do something with each operand; the answer is the greatest status. -/
def each (step : List Char → Utility Nat) : List (List Char) → Utility Nat
  | [] => return 0
  | operand :: others => do
    let status ← step operand
    return max status (← each step others)

/-- Do something with each operand up to the first with which that fails. -/
def untilFailure (step : List Char → Utility Nat) : List (List Char) → Utility Nat
  | [] => return 0
  | operand :: others => do
    let status ← step operand
    if status = 0 then untilFailure step others else return status

/-- Change the files, or say what could not be done to a path. -/
def change (about : String) (path : List Char)
    (step : FileTree → Place → Except FileError FileTree) : Utility Nat := do
  let here := (← read).directory
  match ← Activity.attempt fun tree => step tree here with
  | none => return 0
  | some error => refuse about path error

/-- Write a line if that is asked for. -/
def report (asked : Bool) (line : List Char) : Utility Unit := do
  if asked then write (line ++ ['\n'])

/-- The last name of a path. -/
def baseName (path : List Char) : List Char :=
  if path.isEmpty then []
  else
    let names := (Path.names path).filter (!List.isEmpty ·)
    names.getLast?.getD ['/']

/-- The path of a name in a directory. -/
def inDirectory (directory name : List Char) : List Char :=
  if directory.getLast? == some '/' then directory ++ name else directory ++ '/' :: name

/-- Whether a path leads to a directory. -/
def leadsToDirectory (path : List Char) : Utility Bool := do
  return (← Activity.look).hasDirectory (← read).directory (pathOf path)

/-! ## Names -/

/-- A name without a suffix, unless nothing would remain. -/
def withoutSuffix (suffix name : List Char) : List Char :=
  if suffix.length < name.length && suffix.isSuffixOf name then
    name.take (name.length - suffix.length)
  else name

/-- Show the last names of paths. -/
def basename : Utility Nat := do
  let (options, operands) ← OptionTable.read {
    letters := "as:z".toList, names := [("multiple", 'a'), ("suffix", 's')], mixed := false }
  let several := has options 'a' || has options 's'
  let showName (suffix path : List Char) : Utility Nat := do
    write (withoutSuffix suffix (baseName path) ++ ['\n'])
    return 0
  match operands with
  | [] => misuse "missing operand".toList
  | first :: others =>
    if several then each (showName ((value? options 's').getD [])) operands
    else
      match others with
      | [] => showName [] first
      | [suffix] => showName suffix first
      | _ :: extra :: _ => misuse ("extra operand ".toList ++ quoted extra)

/-- The path of the directory that holds what a path names. -/
def parentPath (path : List Char) : List Char :=
  let trimmed := (path.reverse.dropWhile (· == '/')).reverse
  if trimmed.isEmpty then (if path.isEmpty then ['.'] else ['/'])
  else if !trimmed.contains '/' then ['.']
  else
    let parent := trimmed.reverse.dropWhile (· != '/')
    let parent := (parent.dropWhile (· == '/')).reverse
    if parent.isEmpty then ['/'] else parent

/-- Show the directories of paths. -/
def dirname : Utility Nat := do
  let (_, operands) ← OptionTable.read { letters := ['z'] }
  if operands.isEmpty then misuse "missing operand".toList
  write (unlines (operands.map parentPath))
  return 0

/-! ## Directories -/

/-- The paths of the directories on the way to a path, the outermost first. -/
def ancestors (path : List Char) : List (List Char) :=
  let names := (Path.names path).filter (!List.isEmpty ·)
  let start := if path.head? == some '/' then ['/'] else []
  (List.range names.length).map fun count => start ++ ['/'].intercalate (names.take (count + 1))

/-- Create directories. -/
def mkdir : Utility Nat := do
  let (options, operands) ← OptionTable.read {
    letters := "m:pvZ".toList, names := [("mode", 'm'), ("parents", 'p'), ("verbose", 'v')] }
  if operands.isEmpty then misuse "missing operand".toList
  let create (path : List Char) : Utility Nat := do
    let status ← change "cannot create directory " path fun tree here =>
      tree.createDirectory here (pathOf path)
    if status = 0 then
      report (has options 'v') ((← name) ++ ": created directory ".toList ++ quoted path)
    return status
  let createIfMissing (path : List Char) : Utility Nat := do
    if ← leadsToDirectory path then return 0 else create path
  each (fun path =>
    if has options 'p' && !path.isEmpty then untilFailure createIfMissing (ancestors path)
    else create path) operands

/-- Take away directories that are empty. -/
def rmdir : Utility Nat := do
  let (options, operands) ← OptionTable.read {
    letters := "pv".toList
    names := [("parents", 'p'), ("verbose", 'v'), ("ignore-fail-on-non-empty", 'i')] }
  if operands.isEmpty then misuse "missing operand".toList
  let remove (path : List Char) : Utility Nat := do
    report (has options 'v') ((← name) ++ ": removing directory, ".toList ++ quoted path)
    change "failed to remove " path fun tree here => tree.removeDirectory here (pathOf path)
  each (fun path =>
    if has options 'p' then each remove (ancestors path).reverse else remove path) operands

/-! ## Files -/

/-- Create files that are missing. -/
def touch : Utility Nat := do
  let (options, operands) ← OptionTable.read {
    letters := "acd:fhmr:t:".toList, names := [("no-create", 'c'), ("date", 'd')] }
  if operands.isEmpty then misuse "missing file operand".toList
  each (fun path => do
    if ← leadsToDirectory path then return 0
    if has options 'c' then return 0
    change "cannot touch " path fun tree here => tree.update here (pathOf path) id) operands

/-- Take away files. -/
def rm : Utility Nat := do
  let (options, operands) ← OptionTable.read {
    letters := "dfiIrRv".toList
    names := [("dir", 'd'), ("force", 'f'), ("recursive", 'r'), ("verbose", 'v')] }
  let forced := has options 'f'
  if operands.isEmpty then
    if forced then return 0 else misuse "missing operand".toList
  let deep := has options 'r' || has options 'R'
  each (fun path => do
    let last := baseName path
    if deep && (last = ['.'] || last = "..".toList) then
      complain ("refusing to remove '.' or '..' directory: skipping ".toList ++ quoted path)
      return 1
    let here := (← read).directory
    let answer ← Activity.attempt fun tree =>
      if deep then tree.removeAll here (pathOf path)
      else
        match tree.removeFile here (pathOf path) with
        | .error .isDirectory =>
          if has options 'd' then tree.removeDirectory here (pathOf path) else .error .isDirectory
        | answer => answer
    match answer with
    | none =>
      report (has options 'v') ("removed ".toList ++ quoted path)
      return 0
    | some error =>
      if forced && (error = .notFound || error = .notDirectory) then return 0
      refuse "cannot remove " path error) operands

/-- Take away one file. -/
def unlink : Utility Nat := do
  match ← arguments with
  | [] => misuse "missing operand".toList
  | [path] => change "cannot unlink " path fun tree here => tree.removeFile here (pathOf path)
  | _ :: extra :: _ => misuse ("extra operand ".toList ++ quoted extra)

/-- The sources and targets that operands name: the last one is a directory or the only
target. -/
def readTargets (options : List OptionValue) (operands : List (List Char)) :
    Utility (List (List Char × List Char)) := do
  let into (directory : List Char) (sources : List (List Char)) :
      List (List Char × List Char) :=
    sources.map fun source => (source, inDirectory directory (baseName source))
  match value? options 't' with
  | some directory => return into directory operands
  | none =>
    match operands with
    | [] => misuse "missing file operand".toList
    | [source] => misuse ("missing destination file operand after ".toList ++ quoted source)
    | _ =>
      let target := operands.getLast?.getD []
      let sources := operands.dropLast
      if !has options 'T' && (← leadsToDirectory target) then return into target sources
      match sources with
      | [source] => return [(source, target)]
      | _ =>
        let tree ← Activity.look
        let error := match tree.find (← read).directory (pathOf target) with
          | .ok _ => FileError.notDirectory
          | .error error => error
        fail (because ("target ".toList ++ quoted target) error)

/-- Whether two paths lead to the same place. -/
def areSame (source target : List Char) : Utility Bool := do
  let here := (← read).directory
  let tree ← Activity.look
  match tree.locate here (pathOf source), tree.locate here (pathOf target) with
  | .ok left, .ok right => return left = right && (tree.node? left).isSome
  | _, _ => return false

/-- Say that two paths lead to the same file. -/
def refuseSame (source target : List Char) : Utility Nat := do
  complain (quoted source ++ " and ".toList ++ quoted target ++ " are the same file".toList)
  return 1

/-- What is said about a source and its target. -/
def arrow (source target : List Char) : List Char :=
  quoted source ++ " -> ".toList ++ quoted target

/-- Give files other names. -/
def mv : Utility Nat := do
  let (options, operands) ← OptionTable.read {
    letters := "finut:Tv".toList
    names := [("force", 'f'), ("no-clobber", 'n'), ("target-directory", 't'), ("verbose", 'v')] }
  let pairs ← readTargets options operands
  let rec moveAll : List (List Char × List Char) → Utility Nat
    | [] => return 0
    | (source, target) :: others => do
      let here := (← read).directory
      let tree ← Activity.look
      let status ← do
        match tree.locateEntry here (pathOf source) with
        | .error error => refuse "cannot stat " source error
        | .ok (place, node) =>
          if ← areSame source target then refuseSame source target
          else if has options 'n' && (tree.locateEntry here (pathOf target)).toOption.isSome then
            pure 0
          else
            let isInside : Bool := match tree.locateNew here (pathOf target) with
              | .ok below => node == .directory && FileTree.isWithin below place
              | .error _ => false
            if isInside then
              complain ("cannot move ".toList ++ quoted source ++
                " to a subdirectory of itself, ".toList ++ quoted target)
              pure 1
            else
              match ← Activity.attempt fun tree =>
                tree.rename here (pathOf source) (pathOf target) with
              | none =>
                report (has options 'v') ("renamed ".toList ++ arrow source target)
                pure 0
              | some error =>
                complain (because ("cannot move ".toList ++ quoted source ++ " to ".toList ++
                  quoted target) error)
                pure 1
      return max status (← moveAll others)
  moveAll pairs

/-- Copy a file. -/
def copyFile (source target : List Char) (octets : List UInt8) (executable : Bool) :
    Utility Nat := do
  let here := (← read).directory
  if target.getLast? == some '/' then
    refuse "cannot create regular file " target .notDirectory
  else
    let isNew := ((← Activity.look).find here (pathOf target)).toOption.isNone
    let step (tree : FileTree) (here : Place) : Except FileError FileTree := do
      let tree ← tree.write here (pathOf target) octets
      if isNew then tree.setExecutable here (pathOf target) executable else return tree
    if ← areSame source target then refuseSame source target
    else change "cannot create regular file " target step

/-- Copy files. -/
def cp : Utility Nat := do
  let (options, operands) ← OptionTable.read {
    letters := "adfiHlLnPprRst:TuvxX".toList
    names := [("archive", 'a'), ("force", 'f'), ("no-clobber", 'n'), ("recursive", 'r'),
      ("target-directory", 't'), ("verbose", 'v'), ("preserve", 'p')] }
  let pairs ← readTargets options operands
  let deep := ['r', 'R', 'a'].any (has options)
  let rec copyAll : List (List Char × List Char) → Utility Nat
    | [] => return 0
    | (source, target) :: others => do
      let here := (← read).directory
      let tree ← Activity.look
      let isThere := (tree.find here (pathOf target)).toOption.isSome
      let status ← do
        match tree.find here (pathOf source) with
        | .error error => refuse "cannot stat " source error
        | .ok (.file octets executable) =>
          if has options 'n' && isThere then pure 0
          else
            let status ← copyFile source target octets executable
            if status = 0 then report (has options 'v') (arrow source target)
            pure status
        | .ok .directory =>
          if !deep then
            complain ("-r not specified; omitting directory ".toList ++ quoted source)
            pure 1
          else
            match tree.locate here (pathOf source), tree.locateNew here (pathOf target) with
            | .ok top, .ok below =>
              if FileTree.isWithin below top then
                complain ("cannot copy a directory, ".toList ++ quoted source ++
                  ", into itself, ".toList ++ quoted target)
                pure 1
              else
                Activity.edit fun tree =>
                  tree.graft below ((tree.branch top).filter fun (place, node) =>
                    !(node = .directory && tree.isDirectory (below ++ place)))
                report (has options 'v') (arrow source target)
                pure 0
            | _, .error error => refuse "cannot create directory " target error
            | .error error, _ => refuse "cannot stat " source error
        | .ok _ => copyFile source target [] false
      return max status (← copyAll others)
  copyAll pairs

/-- Create links. -/
def ln : Utility Nat := do
  let (options, operands) ← OptionTable.read {
    letters := "finsTvrLPt:".toList
    names := [("force", 'f'), ("no-dereference", 'n'), ("symbolic", 's'), ("verbose", 'v')] }
  let soft := has options 's'
  let kind := if soft then "failed to create symbolic link " else "failed to create hard link "
  let pairs ←
    match operands with
    | [source] => pure [(source, inDirectory ['.'] (baseName source))]
    | _ => readTargets options operands
  let rec linkAll : List (List Char × List Char) → Utility Nat
    | [] => return 0
    | (source, target) :: others => do
      let here := (← read).directory
      let tree ← Activity.look
      let status ← do
        let free (tree : FileTree) : FileTree :=
          if has options 'f' then (tree.removeFile here (pathOf target)).toOption.getD tree else tree
        if soft then
          change kind target fun tree here =>
            (free tree).createLink here (pathOf source) (pathOf target)
        else
          match tree.locateEntry here (pathOf source) with
          | .error error => refuse "failed to access " source error
          | .ok (_, .directory) =>
            complain (source ++ ": hard link not allowed for directory".toList)
            pure 1
          | .ok (_, node) =>
            change kind target fun tree here => do
              let tree := free tree
              let place ← tree.locateNew here (pathOf target)
              if (tree.node? place).isSome then throw .exists
              return tree.put place node
      if status = 0 then
        report (has options 'v')
          (quoted target ++ (if soft then " -> " else " => ").toList ++ quoted source)
      return max status (← linkAll others)
  linkAll pairs

/-- Whether a file that can be executed or not can be after a change of its permissions;
`none` if the change is none. -/
def executableAfter? (mode : List Char) (executable : Bool) : Option Bool :=
  let before := if executable then 493 else 420
  let after :=
    if !mode.isEmpty && mode.all Script.Format.isOctal then
      some (Script.Format.valueIn 8 mode)
    else Script.Builtin.readMode? [] (mode.length + 2) before (',' :: mode)
  after.map fun bits => bits % 2 == 1 || bits / 8 % 2 == 1 || bits / 64 % 2 == 1

/-- Change the permissions of files. -/
def chmod : Utility Nat := do
  let arguments := (← arguments).filter fun argument =>
    !(["-R", "-v", "-f", "-c", "--"].contains (String.ofList argument))
  match arguments with
  | [] => misuse "missing operand".toList
  | mode :: paths =>
    if (executableAfter? mode false).isNone then misuse ("invalid mode: ".toList ++ quoted mode)
    if paths.isEmpty then misuse ("missing operand after ".toList ++ quoted mode)
    each (fun path => change "cannot access " path fun tree here => do
      match ← tree.find here (pathOf path) with
      | .file _ executable =>
        tree.setExecutable here (pathOf path) ((executableAfter? mode executable).getD executable)
      | _ => return tree) paths

/-- Set the sizes of files. -/
def truncate : Utility Nat := do
  let (options, operands) ← OptionTable.read {
    letters := "cor:s:".toList, names := [("size", 's'), ("no-create", 'c')] }
  match value? options 's' with
  | none => misuse "you must specify either '--size' or '--reference'".toList
  | some size =>
    let sign := size.head?.filter "+-<>".toList.contains
    match number? (if sign.isSome then size.drop 1 else size) with
    | none => fail ("Invalid number: ".toList ++ quoted size)
    | some count =>
      if operands.isEmpty then misuse "missing file operand".toList
      each (fun path => change "cannot open " path fun tree here =>
        tree.update here (pathOf path) fun octets =>
          let length := match sign with
            | some '+' => octets.length + count
            | some '-' => octets.length - count
            | some '<' => min octets.length count
            | some '>' => max octets.length count
            | _ => count
          octets.take length ++ List.replicate (length - octets.length) 0) operands

/-! ## What there is -/

/-- Whether a name comes before another one. -/
def comesBefore (left right : List Char) : Bool :=
  compare (String.ofList left) (String.ofList right) != .gt

/-- How names are listed. -/
structure Listing where
  hidden : Bool := false
  dots : Bool := false
  itself : Bool := false
  marks : Bool := false
  reversed : Bool := false
  deep : Bool := false

/-- A name with a mark for what it names. -/
def Listing.mark (listing : Listing) (tree : FileTree) (place : Place) (name : List Char) :
    List Char :=
  if !listing.marks then name
  else
    match tree.node? place with
    | some .directory => name ++ ['/']
    | some (.link _) => name ++ ['@']
    | some (.file _ true) => name ++ ['*']
    | _ => name

/-- Names in order. -/
def Listing.sort (listing : Listing) (names : List (List Char)) : List (List Char) :=
  let sorted := names.mergeSort comesBefore
  if listing.reversed then sorted.reverse else sorted

/-- The names in a directory as they are listed. -/
def Listing.directory (listing : Listing) (tree : FileTree) (place : Place) : List (List Char) :=
  let names := (tree.namesIn place).filter fun name =>
    listing.hidden || name.toList.head? != some '.'
  let names := names ++ if listing.dots then [".", ".."] else []
  let plain := listing.sort (names.map Text.ofString)
  plain.map fun name => listing.mark tree (place ++ [pathOf name]) name

/-- List names. -/
def ls : Utility Nat := do
  let (options, operands) ← OptionTable.read {
    letters := "1aAdCFhklLmnopqrRsStuUxXZ".toList
    names := [("all", 'a'), ("almost-all", 'A'), ("directory", 'd'), ("classify", 'F'),
      ("reverse", 'r')]
    fault := 2 }
  let listing : Listing := {
    hidden := has options 'a' || has options 'A', dots := has options 'a'
    itself := has options 'd', marks := has options 'F' || has options 'p'
    reversed := has options 'r' }
  let here := (← read).directory
  let tree ← Activity.look
  let paths := if operands.isEmpty then [['.']] else operands
  let missing := paths.filterMap fun path =>
    match tree.find here (pathOf path), tree.locateEntry here (pathOf path) with
    | .error error, .error _ => some (path, error)
    | _, _ => none
  missing.forM fun (path, error) => complain (because ("cannot access ".toList ++ quoted path) error)
  let present := paths.filter fun path => (missing.lookup path).isNone
  let isListed (path : List Char) : Bool :=
    !listing.itself && tree.hasDirectory here (pathOf path)
  let plain := listing.sort (present.filter (!isListed ·))
  let directories := listing.sort (present.filter isListed)
  write (unlines (plain.map fun path =>
    listing.mark tree (((tree.locateEntry here (pathOf path)).toOption.map Prod.fst).getD []) path))
  let blocks := directories.map fun path =>
    let place := (tree.locate here (pathOf path)).toOption.getD []
    let title := if 1 < paths.length then path ++ ":\n".toList else []
    title ++ unlines (listing.directory tree place)
  write ((if plain.isEmpty || blocks.isEmpty then [] else ['\n']) ++ ['\n'].intercalate blocks)
  return if missing.isEmpty then 0 else 2

/-- The path of a place. -/
def placePath (place : Place) : List Char := '/' :: ['/'].intercalate (place.map Text.ofString)

/-- Show where links and paths lead. -/
def readlink : Utility Nat := do
  let (options, operands) ← OptionTable.read {
    letters := "efmnqsvz".toList, names := [("canonicalize", 'f'), ("no-newline", 'n')] }
  if operands.isEmpty then misuse "missing operand".toList
  let ending := if has options 'n' && operands.length = 1 then [] else ['\n']
  each (fun path => do
    let here := (← read).directory
    let tree ← Activity.look
    let answer : Option (List Char) :=
      if has options 'f' || has options 'e' || has options 'm' then
        match tree.locate here (pathOf path), tree.locateNew here (pathOf path) with
        | .ok place, _ => if has options 'e' && (tree.node? place).isNone then none else placePath place
        | _, .ok place => if has options 'e' then none else placePath place
        | _, _ => none
      else
        match tree.locateEntry here (pathOf path) with
        | .ok (_, .link target) => some (Text.ofString target)
        | _ => none
    match answer with
    | none => return 1
    | some text =>
      write (text ++ ending)
      return 0) operands

/-- Show the places that paths lead to. -/
def realpath : Utility Nat := do
  let (options, operands) ← OptionTable.read { letters := "eLmPqsz".toList }
  if operands.isEmpty then misuse "missing operand".toList
  each (fun path => do
    let here := (← read).directory
    let tree ← Activity.look
    match tree.locate here (pathOf path) with
    | .error error =>
      complain (because path error)
      return 1
    | .ok place =>
      if has options 'e' && (tree.node? place).isNone then
        complain (because path .notFound)
        return 1
      write (placePath place ++ ['\n'])
      return 0) operands

/-- Show where programs stand. -/
def which : Utility Nat := do
  let (options, operands) ← OptionTable.read { letters := "as".toList }
  let setting ← read
  let tree ← Activity.look
  let searchPath := (setting.environment.lookup "PATH").getD Program.usualPath
  if operands.isEmpty then return 1
  each (fun name => do
    let found := (Program.candidates searchPath name).filter fun path =>
      (Program.locate tree setting.directory path).toOption.isSome
    let shown := if has options 'a' then found else found.take 1
    unless has options 's' do write (unlines shown)
    return if found.isEmpty then 1 else 0) operands

/-- Compare two files. -/
def cmp : Utility Nat := do
  let (options, operands) ← OptionTable.read {
    letters := "bi:ln:s".toList, names := [("quiet", 's'), ("silent", 's'), ("verbose", 'l')]
    fault := 2 }
  match operands with
  | [] => misuse "missing operand after 'cmp'".toList 2
  | left :: others =>
    let right := others.headD ['-']
    let readSide (path : List Char) : Utility (List Char) := do
      match ← readOperand path with
      | .ok text => return text
      | .error error =>
        if has options 's' then exit 2 else fail (because path error) 2
    let leftText ← readSide left
    let rightText ← readSide right
    let pairs := leftText.zip rightText
    let speaks := !has options 's'
    match pairs.findIdx? fun (one, other) => one != other with
    | some index =>
      let line := ((leftText.take index).countP (· == '\n')) + 1
      if speaks then
        write (left ++ ' ' :: right ++ " differ: char ".toList ++ Text.digits (index + 1) ++
          ", line ".toList ++ Text.digits line ++ ['\n'])
      return 1
    | none =>
      if leftText.length = rightText.length then return 0
      let short := if leftText.length < rightText.length then left else right
      let line := pairs.countP fun (char, _) => char == '\n'
      if speaks then
        complain ("EOF on ".toList ++ short ++
          (if pairs.isEmpty then " which is empty".toList
            else " after byte ".toList ++ Text.digits pairs.length ++
              (if (pairs.getLast?.map Prod.fst) = some '\n' then ", line ".toList ++ Text.digits line
                else ", in line ".toList ++ Text.digits (line + 1))))
      return 1

end Crosscheck.Utility.Files
