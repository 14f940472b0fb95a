import Crosscheck.Utility.Basic

/-!
# Copying

The utilities that pass on what they read as it comes: all of it, the start of it, or to
several places at once.
-/

namespace Crosscheck.Utility

/-- Pass on what is read from an open file. The fuel bounds the number of blocks. -/
def copyBlocks (handle : Handle) : Nat → Utility (Option FileError)
  | 0 => return none
  | fuel + 1 => do
    match ← Activity.readSome handle 131072 with
    | .ok [] => return none
    | .ok octets =>
      write (Text.ofOctets octets)
      Activity.pause blockTime
      copyBlocks handle fuel
    | .error error => return some error

/-- Pass on operands. -/
def copyOperands : List (List Char) → Utility Nat
  | [] => return 0
  | path :: others => do
    let error ←
      match ← openOperand path with
      | .error error => pure (some error)
      | .ok handle => do
        let error ← copyBlocks handle plenty
        closeOperand handle
        pure error
    match error with
    | none => copyOperands others
    | some error =>
      complainOf path error
      return max 1 (← copyOperands others)

/-- How lines are shown. -/
structure LineView where
  numbers : Bool := false
  /-- Whether only lines with text are numbered. -/
  skipsEmpty : Bool := false
  squeezes : Bool := false
  endings : Bool := false
  tabs : Bool := false
  controls : Bool := false

/-- A character as it is shown where control characters are visible. -/
def visible (char : Char) : List Char :=
  let code := char.toNat
  let low (code : Nat) : List Char :=
    if code < 32 then ['^', Char.ofNat (code + 64)]
    else if code = 127 then ['^', '?']
    else [Char.ofNat code]
  if code < 128 then (if char == '\t' then [char] else low code)
  else 'M' :: '-' :: low (code - 128)

/-- Show lines, given the number of the first and whether an empty one stands before it. -/
def viewLines (view : LineView) : Nat → Bool → List (List Char) → List Char
  | _, _, [] => []
  | number, afterEmpty, line :: rest =>
    let body := withoutTerminator line
    let ending := line.drop body.length
    let isEmpty := body.isEmpty && !ending.isEmpty
    if view.squeezes && isEmpty && afterEmpty then viewLines view number true rest
    else
      let isNumbered := view.numbers && !(view.skipsEmpty && isEmpty)
      let digits := Text.digits number
      let label :=
        if isNumbered then List.replicate (6 - digits.length) ' ' ++ digits ++ ['\t'] else []
      let body := if view.controls then body.flatMap visible else body
      let body :=
        if view.tabs then body.flatMap fun char => if char == '\t' then ['^', 'I'] else [char]
        else body
      let ending := if view.endings && !ending.isEmpty then ['$', '\n'] else ending
      label ++ body ++ ending ++
        viewLines view (if isNumbered then number + 1 else number) isEmpty rest

/-- Pass on files one after another, with their lines shown in a certain way if that is
asked for. -/
def cat : Utility Nat := do
  let (options, operands) ← OptionTable.read {
    letters := "AbeEnstTuv".toList
    names := [("show-all", 'A'), ("number-nonblank", 'b'), ("show-ends", 'E'), ("number", 'n'),
      ("squeeze-blank", 's'), ("show-tabs", 'T'), ("show-nonprinting", 'v')] }
  let any (letters : String) : Bool := letters.toList.any (has options)
  let view : LineView := {
    numbers := any "nb", skipsEmpty := any "b", squeezes := any "s", endings := any "EAe"
    tabs := any "TAt", controls := any "vAet" }
  if any "AbeEnstTv" then
    let (text, complete) ← readAll operands
    write (viewLines view 1 false (Text.lines text))
    return if complete then 0 else 1
  let status ← copyOperands (inputs operands)
  if (inputs operands).contains ['-'] && ((← read).descriptors.lookup 0).isNone then
    fail "closing standard input: Bad file descriptor".toList
  return status

/-! ## The start of an input -/

/-- The number of an amount: digits and a unit. -/
def amount? (text : List Char) : Option Nat := do
  let digits := text.takeWhile Char.isDigit
  let value ← number? digits
  let factor ←
    match String.ofList (text.drop digits.length) with
    | "" => some 1
    | "b" => some 512
    | "kB" => some 1000
    | "k" => some 1024
    | "K" => some 1024
    | "KiB" => some 1024
    | "MB" => some 1000000
    | "M" => some 1048576
    | "MiB" => some 1048576
    | "G" => some 1073741824
    | _ => none
  return value * factor

/-- Pass on a number of lines or characters as they come. -/
def copyStart (byLines : Bool) (handle : Handle) : Nat → Nat → Utility (Option FileError)
  | 0, _ => return none
  | fuel + 1, count => do
    if count = 0 then return none
    let block := if byLines then 1024 else min count 8192
    match ← Activity.readSome handle block with
    | .ok [] => return none
    | .error error => return some error
    | .ok octets =>
      let text := Text.ofOctets octets
      Activity.pause blockTime
      if byLines then
        let lines := Text.lines text
        write ((lines.take count).flatten)
        Activity.giveBack handle ((lines.drop count).flatten).length
        let complete := lines.countP fun line => line.getLast? == some '\n'
        copyStart byLines handle fuel (count - complete)
      else
        write text
        copyStart byLines handle fuel (count - octets.length)

/-- What is passed on of an input: how much, whether in lines, and whether that is left out
at the end instead. -/
structure Portion where
  count : Nat := 10
  byLines : Bool := true
  /-- All but the last for a start, from a place on for an end. -/
  isComplement : Bool := false

/-- A text cut into lines or characters. -/
def Portion.pieces (portion : Portion) (text : List Char) : List (List Char) :=
  if portion.byLines then Text.lines text else text.map ([·])

/-- The title of an operand among several. -/
def title (isFirst : Bool) (path : List Char) : List Char :=
  let path := if path = ['-'] then "standard input".toList else path
  (if isFirst then [] else ['\n']) ++ "==> ".toList ++ path ++ " <==\n".toList

/-- Pass on a part of each operand, given how that is done. -/
def copyParts (titled : Bool) (copy : Handle → Utility (Option FileError)) :
    Bool → List (List Char) → Utility Nat
  | _, [] => return 0
  | isFirst, path :: others => do
    match ← openOperand path with
    | .error error =>
      complain ("cannot open ".toList ++ quoted path ++ " for reading: ".toList ++
        error.reason.toList)
      return max 1 (← copyParts titled copy isFirst others)
    | .ok handle =>
      if titled then write (title isFirst path)
      let error ← copy handle
      closeOperand handle
      match error with
      | none => copyParts titled copy false others
      | some error =>
        complain ("error reading ".toList ++ quoted path ++ ": ".toList ++ error.reason.toList)
        return max 1 (← copyParts titled copy false others)

/-- The arguments of an utility where a hyphen may be followed by a number of lines. -/
def withCounts (arguments : List (List Char)) : List (List Char) :=
  match arguments with
  | ('-' :: digit :: digits) :: rest =>
    if digit.isDigit then ['-', 'n'] :: (digit :: digits) :: rest else arguments
  | _ => arguments

/-- Read the options of a utility for a part of its inputs. -/
def readPortion (mark : Char) : Utility (Portion × List OptionValue × List (List Char)) := do
  let table : OptionTable := {
    letters := "c:n:qvzfF".toList
    names := [("bytes", 'c'), ("lines", 'n'), ("quiet", 'q'), ("silent", 'q'), ("verbose", 'v'),
      ("follow", 'f')] }
  let arguments := withCounts (← arguments)
  let (options, operands) ← table.readAll (arguments.length + 1) arguments
  let sizes := options.filter fun (letter, _) => letter == 'c' || letter == 'n'
  match sizes.getLast? with
  | none => return ({}, options, operands)
  | some (letter, size) =>
    let byLines := letter == 'n'
    let isComplement := size.head? == some mark
    let digits := if size.head?.any "+-".toList.contains then size.drop 1 else size
    match amount? digits with
    | some count => return ({ count, byLines, isComplement }, options, operands)
    | none =>
      fail (("invalid number of " ++ (if byLines then "lines" else "bytes") ++ ": ").toList ++
        quoted size)

/-- Pass on what a function leaves of the text of an input. -/
def copyThrough (change : List Char → List Char) (handle : Handle) : Utility (Option FileError) := do
  match ← drain handle plenty [] with
  | .error error => return some error
  | .ok octets =>
    write (change (Text.ofOctets octets))
    return none

/-- Whether the titles of operands are shown. -/
def showsTitles (options : List OptionValue) (operands : List (List Char)) : Bool :=
  has options 'v' || (1 < operands.length && !has options 'q')

/-- Pass on the starts of inputs. -/
def head : Utility Nat := do
  let (portion, options, operands) ← readPortion '-'
  let copy (handle : Handle) : Utility (Option FileError) :=
    if portion.isComplement then
      copyThrough (fun text =>
        let pieces := portion.pieces text
        (pieces.take (pieces.length - portion.count)).flatten) handle
    else copyStart portion.byLines handle plenty portion.count
  copyParts (showsTitles options operands) copy true (inputs operands)

/-- Pass on the ends of inputs. -/
def tail : Utility Nat := do
  let (portion, options, operands) ← readPortion '+'
  let copy : Handle → Utility (Option FileError) :=
    copyThrough fun text =>
      let pieces := portion.pieces text
      if portion.isComplement then (pieces.drop (portion.count - 1)).flatten
      else (pieces.drop (pieces.length - portion.count)).flatten
  copyParts (showsTitles options operands) copy true (inputs operands)

/-! ## Several places -/

/-- Pass on what is read to several open files. The fuel bounds the number of blocks. -/
def copyToAll (source : Handle) (targets : List Handle) : Nat → Utility Unit
  | 0 => pure ()
  | fuel + 1 => do
    match ← Activity.readSome source 8192 with
    | .ok [] => pure ()
    | .error _ => pure ()
    | .ok octets =>
      write (Text.ofOctets octets)
      targets.forM fun target => discard (Activity.write target octets)
      Activity.pause blockTime
      copyToAll source targets fuel

/-- Open files for writing. -/
def openTargets (mode : OpenMode) : List (List Char) → Utility (List Handle × Nat)
  | [] => return ([], 0)
  | path :: others => do
    let setting ← read
    match ← Activity.openPath setting.directory setting.descriptors mode path with
    | .ok handle =>
      let (handles, status) ← openTargets mode others
      return (handle :: handles, status)
    | .error error =>
      complainOf path error
      let (handles, _) ← openTargets mode others
      return (handles, 1)

/-- Pass on the input to the output and to files. -/
def tee : Utility Nat := do
  let (options, operands) ← OptionTable.read {
    letters := "aip".toList, names := [("append", 'a'), ("ignore-interrupts", 'i')] }
  let (targets, status) ← openTargets (if has options 'a' then .append else .write) operands
  match ← openOperand ['-'] with
  | .ok source => copyToAll source targets plenty
  | .error _ => pure ()
  return status

end Crosscheck.Utility
