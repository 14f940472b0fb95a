import Crosscheck.Utility.Stream

/-!
# Line by line

The utilities that treat the lines of their inputs one by one, or each together with the lines
next to it.
-/

namespace Crosscheck.Utility

/-- A text after blanks that make it as long as a number says. -/
def alignedRight (width : Nat) (text : List Char) : List Char :=
  List.replicate (width - text.length) ' ' ++ text

/-! ## Repeated lines -/

namespace Repetition

/-- Which lines are the same and what is shown of them. -/
structure Manner where
  skippedFields : Nat := 0
  skippedChars : Nat := 0
  length : Option Nat := none
  folded : Bool := false
  counts : Bool := false
  /-- Whether only lines are shown that are repeated, or only others. -/
  repeated : Bool := false
  single : Bool := false
  /-- Whether each of the lines that are repeated is shown. -/
  all : Bool := false

/-- The part of a line by which it is compared. -/
def Manner.part (manner : Manner) (line : List Char) : List Char :=
  let isBlank (char : Char) : Bool := char == ' ' || char == '\t'
  let rest := (List.range manner.skippedFields).foldl (fun line _ =>
    (line.dropWhile isBlank).dropWhile (!isBlank ·)) (withoutTerminator line)
  let rest := rest.drop manner.skippedChars
  let rest := match manner.length with
    | some length => rest.take length
    | none => rest
  if manner.folded then rest.map Char.toLower else rest

/-- What is shown of lines that are the same, latest first. -/
def Manner.render (manner : Manner) (lines : List (List Char)) : List Char :=
  match lines.getLast? with
  | none => []
  | some first =>
    let full (line : List Char) : List Char := withoutTerminator line ++ ['\n']
    let isRepeated := 1 < lines.length
    if manner.all then (if isRepeated then lines.reverse.flatMap full else [])
    else if (manner.repeated && !isRepeated) || (manner.single && isRepeated) then []
    else
      let count :=
        if manner.counts then alignedRight 7 (Text.digits lines.length) ++ [' '] else []
      count ++ full first

/-- Collects lines that are the same. -/
def Manner.collector (manner : Manner) : Transducer (List (List Char) × List Char) :=
  .ofLines (fun same line =>
      match same with
      | [] => ([line], [])
      | other :: _ =>
        if manner.part other = manner.part line then (line :: same, [])
        else ([line], manner.render same))
    manner.render

/-- The number that an option gives. -/
def readCount (options : List OptionValue) (letter : Char) (about : String) :
    Utility (Option Nat) := do
  match value? options letter with
  | none => return none
  | some text =>
    match number? text with
    | some count => return some count
    | none => fail (text ++ (": invalid number of " ++ about).toList)

/-- Show lines that are repeated only once. -/
def uniq : Utility Nat := do
  let (options, operands) ← OptionTable.read {
    letters := "cdDuif:s:w:z".toList
    names := [("count", 'c'), ("repeated", 'd'), ("unique", 'u'), ("ignore-case", 'i'),
      ("skip-fields", 'f'), ("skip-chars", 's'), ("check-chars", 'w')] }
  let manner : Manner := {
    skippedFields := (← readCount options 'f' "fields to skip").getD 0
    skippedChars := (← readCount options 's' "bytes to skip").getD 0
    length := ← readCount options 'w' "bytes to compare"
    folded := has options 'i', counts := has options 'c', repeated := has options 'd'
    single := has options 'u', all := has options 'D' }
  match operands with
  | _ :: _ :: operand :: _ => misuse ("extra operand ".toList ++ quoted operand)
  | _ =>
    let reading (path : List Char) (error : FileError) : Utility Unit :=
      complain ("error reading ".toList ++ quoted path ++ ": ".toList ++ error.reason.toList)
    manner.collector.run ([], []) (operands.take 1) { reading }

end Repetition

/-! ## Parts of lines -/

namespace Selection

/-- Numbers from a first one to a last one, if there is one. -/
abbrev Span := Nat × Option Nat

/-- Whether a number is in one of some spans. -/
def contains (spans : List Span) (number : Nat) : Bool :=
  spans.any fun (first, last) => first ≤ number && last.all (number ≤ ·)

/-- What is taken of lines. -/
structure Plan where
  spans : List Span
  /-- What separates fields; without it characters are counted. -/
  separator : Option Char
  /-- What stands between the parts that are taken. -/
  joint : Option (List Char) := none
  isComplement : Bool := false
  /-- Whether lines without a separator are left out. -/
  dropsOther : Bool := false

/-- Whether a part of a number is taken. -/
def Plan.takes (plan : Plan) (number : Nat) : Bool :=
  contains plan.spans number != plan.isComplement

/-- Whether a span starts at a number that is in none of those that start before. -/
def Plan.startsSpan (plan : Plan) (number : Nat) : Bool :=
  (plan.spans.any fun (first, _) => first = number) &&
    !contains (plan.spans.filter fun (first, _) => first < number) number

/-- The characters that are taken, given their number and whether the one before is taken. -/
def Plan.takeChars (plan : Plan) : Nat → Option Bool → List Char → List Char
  | _, _, [] => []
  | number, last, char :: rest =>
    if plan.takes number then
      let starts := !plan.isComplement && plan.startsSpan number
      let joint := if last = some false || (last = some true && starts) then plan.joint else none
      joint.getD [] ++ char :: plan.takeChars (number + 1) (some true) rest
    else plan.takeChars (number + 1) (last.map fun _ => false) rest

/-- What is taken of a line. -/
def Plan.take (plan : Plan) (line : List Char) : List Char :=
  let body := withoutTerminator line
  match plan.separator with
  | none => plan.takeChars 1 none body ++ ['\n']
  | some separator =>
    if !body.contains separator then (if plan.dropsOther then [] else body ++ ['\n'])
    else
      let fields := (Program.divide separator body).zipIdx 1
      let taken := fields.filter fun (_, number) => plan.takes number
      (plan.joint.getD [separator]).intercalate (taken.map Prod.fst) ++ ['\n']

/-- Refuse a part that is numbered with zero. -/
def refuseZero {α : Type} (byFields : Bool) : Utility α :=
  misuse (if byFields then "fields are numbered from 1"
    else "byte/character positions are numbered from 1").toList

/-- Read a span. -/
def readSpan (byFields : Bool) (text : List Char) : Utility Span := do
  let first := text.takeWhile Char.isDigit
  let rest := text.drop first.length
  match rest with
  | [] =>
    match number? first with
    | some 0 => refuseZero byFields
    | none => refuseZero byFields
    | some number => return (number, some number)
  | '-' :: last =>
    if first.isEmpty && last.isEmpty then
      misuse "invalid range with no endpoint: -".toList
    let start := if first.isEmpty then 1 else (number? first).getD 0
    if start = 0 then refuseZero byFields
    if last.isEmpty then return (start, none)
    match number? last with
    | some number =>
      if number < start then misuse "invalid decreasing range".toList
      return (start, some number)
    | none =>
      misuse (if byFields then "invalid field range" else "invalid byte or character range").toList
  | _ =>
    misuse ((if byFields then "invalid field value " else "invalid byte/character position ").toList
      ++ quoted text)

/-- Read spans. -/
def readSpans (byFields : Bool) : List (List Char) → Utility (List Span)
  | [] => return []
  | text :: others => do
    let span ← readSpan byFields text
    return span :: (← readSpans byFields others)

/-- Show parts of lines. -/
def cut : Utility Nat := do
  let (options, operands) ← OptionTable.read {
    letters := "b:c:d:f:nszCO:".toList
    names := [("bytes", 'b'), ("characters", 'c'), ("delimiter", 'd'), ("fields", 'f'),
      ("only-delimited", 's'), ("complement", 'C'), ("output-delimiter", 'O')] }
  let lists := options.filter fun (letter, _) => "bcf".toList.contains letter
  match lists with
  | [] => misuse "you must specify a list of bytes, characters, or fields".toList
  | _ :: _ :: _ => misuse "only one list may be specified".toList
  | [(letter, text)] =>
    let byFields := letter == 'f'
    let separator : Char ←
      match value? options 'd' with
      | none => pure '\t'
      | some [] => pure '\x00'
      | some [char] => pure char
      | some _ => misuse "the delimiter must be a single character".toList
    if has options 'd' && !byFields then
      misuse "an input delimiter may be specified only when operating on fields".toList
    if has options 's' && !byFields then
      misuse ("suppressing non-delimited lines makes sense\n\tonly when operating on fields".toList)
    let isSeparator (char : Char) : Bool := char == ',' || char == ' '
    let parts := Program.divide ',' (text.map fun char => if isSeparator char then ',' else char)
    let plan : Plan := {
      spans := ← readSpans byFields parts
      separator := if byFields then some separator else none
      joint := value? options 'O', isComplement := has options 'C', dropsOther := has options 's' }
    (Transducer.ofLines (fun () line => ((), plan.take line)) fun () => []).run ((), []) operands

end Selection

/-! ## Counts -/

namespace Count

/-- What is counted of a text. -/
structure Counts where
  lines : Nat := 0
  words : Nat := 0
  chars : Nat := 0
  /-- The length of the longest line. -/
  longest : Nat := 0

/-- What is counted of several texts. -/
def Counts.add (left right : Counts) : Counts where
  lines := left.lines + right.lines
  words := left.words + right.words
  chars := left.chars + right.chars
  longest := max left.longest right.longest

/-- Counts what a text holds, given whether a word has begun and the length of the line so
far. -/
def count : Counts → Bool → Nat → List Char → Counts
  | counts, _, width, [] => { counts with longest := max counts.longest width }
  | counts, inWord, width, char :: rest =>
    let counts := { counts with chars := counts.chars + 1 }
    if char == ' ' || ('\t' ≤ char && char ≤ '\x0d') then
      let longest := max counts.longest width
      let width := if char == '\t' then width / 8 * 8 + 8 else if char == ' ' then width + 1 else 0
      let lines := if char == '\n' then counts.lines + 1 else counts.lines
      count { counts with longest, lines } false width rest
    else
      let isVisible := ' ' ≤ char && char ≤ '~'
      let words := if inWord then counts.words else counts.words + 1
      count { counts with words } true (if isVisible then width + 1 else width) rest

/-- What is shown of counts. -/
def render (options : List OptionValue) (width : Nat) (title : List Char) (counts : Counts) :
    List Char :=
  let isUsual := options.isEmpty
  let shown := [(isUsual || has options 'l', counts.lines), (isUsual || has options 'w', counts.words),
    (has options 'm', counts.chars), (isUsual || has options 'c', counts.chars),
    (has options 'L', counts.longest)]
  let numbers := (shown.filter Prod.fst).map fun (_, number) =>
    alignedRight width (Text.digits number)
  [' '].intercalate numbers ++ (if title.isEmpty then [] else ' ' :: title) ++ ['\n']

/-- An operand that was opened, or why it was not. -/
structure Opened where
  path : List Char
  /-- Whether it is named. -/
  isNamed : Bool
  handle : Except FileError Handle
  /-- The number of its octets, unless it is no usual file. -/
  size : Option Nat

/-- Open operands. -/
def openAll (isNamed : Bool) : List (List Char) → Utility (List Opened)
  | [] => return []
  | path :: others => do
    let handle ← openOperand path
    let size ←
      match handle with
      | .ok handle => Activity.measure handle
      | .error _ => pure (some 0)
    return { path, isNamed, handle, size } :: (← openAll isNamed others)

/-- Count what operands hold. -/
def countAll (options : List OptionValue) (width : Nat) :
    List Opened → Counts → Utility (Counts × Nat)
  | [], total => return (total, 0)
  | opened :: others, total => do
    match opened.handle with
    | .error error =>
      complainOf opened.path error
      let (total, _) ← countAll options width others total
      return (total, 1)
    | .ok handle =>
      let answer ← drain handle plenty []
      closeOperand handle
      let counts := count {} false 0 (Text.ofOctets (answer.toOption.getD []))
      let isWrong ←
        match answer with
        | .ok _ => pure false
        | .error error => do
          complainOf opened.path error
          pure true
      write (render options width (if opened.isNamed then opened.path else []) counts)
      let (total, status) ← countAll options width others (total.add counts)
      return (total, if isWrong then 1 else status)

/-- Count lines, words and characters. -/
def wc : Utility Nat := do
  let (options, operands) ← OptionTable.read {
    letters := "clLmw".toList
    names := [("bytes", 'c'), ("chars", 'm'), ("lines", 'l'), ("words", 'w'),
      ("max-line-length", 'L')] }
  let opened ← openAll (!operands.isEmpty) (inputs operands)
  let size := (opened.filterMap Opened.size).foldl (· + ·) 0
  let letters := (options.map Prod.fst).eraseDups
  let width :=
    if opened.length = 1 && letters.length = 1 then 1
    else
      max (Text.digits size).length
        (if opened.any fun opened => opened.size.isNone then 7 else 1)
  let (total, status) ← countAll options width opened {}
  if 1 < opened.length then write (render options width "total".toList total)
  return status

end Count

/-! ## Other orders and layouts -/

/-- Turn lines round. -/
def rev : Utility Nat := do
  let (_, operands) ← OptionTable.read { letters := [] }
  let opening (path : List Char) (error : FileError) : Utility Unit :=
    complain ("cannot open ".toList ++ path ++ ": ".toList ++ error.reason.toList)
  (Transducer.ofLines (fun () line =>
    let body := withoutTerminator line
    ((), body.reverse ++ line.drop body.length)) fun () => []).run ((), []) operands { opening }

/-- Show the last lines of each input first. -/
def tacOperands : List (List Char) → Utility Nat
  | [] => return 0
  | path :: others => do
    match ← readOperand path with
    | .ok text =>
      write (Text.lines text).reverse.flatten
      tacOperands others
    | .error error =>
      let isOpening := error ≠ .isDirectory
      complain (if isOpening then
        "failed to open ".toList ++ quoted path ++ " for reading: ".toList ++ error.reason.toList
        else path ++ ": read error: ".toList ++ error.reason.toList)
      return max 1 (← tacOperands others)

/-- Show the last lines first. -/
def tac : Utility Nat := do
  let (_, operands) ← OptionTable.read { letters := "brs:".toList }
  tacOperands (inputs operands)

/-- Number lines. -/
def nl : Utility Nat := do
  let (options, operands) ← OptionTable.read { letters := "b:d:f:h:i:l:n:ps:v:w:".toList }
  let numbersAll := value? options 'b' == some ['a']
  let numbersNone := value? options 'b' == some ['n']
  let width := ((value? options 'w').bind number?).getD 6
  let separator := (value? options 's').getD ['\t']
  let start := ((value? options 'v').bind number?).getD 1
  let step := ((value? options 'i').bind number?).getD 1
  let render (number : Nat) : List Char :=
    let digits := Text.digits number
    match value? options 'n' with
    | some ['l', 'n'] => digits ++ List.replicate (width - digits.length) ' '
    | some ['r', 'z'] => List.replicate (width - digits.length) '0' ++ digits
    | _ => alignedRight width digits
  (Transducer.ofLines (fun number line =>
    let body := withoutTerminator line
    if (numbersAll || !body.isEmpty) && !numbersNone then
      (number + step, render number ++ separator ++ body ++ ['\n'])
    else (number, List.replicate (width + separator.length) ' ' ++ body ++ ['\n']))
    fun _ => []).run (start, []) operands

/-- A line in parts of at most a number of characters. The fuel bounds the number of parts. -/
def foldLine (width : Nat) (atBlanks : Bool) : Nat → List Char → List Char
  | 0, line => line
  | fuel + 1, line =>
    if line.length ≤ width then line
    else
      let part := line.take width
      let kept :=
        if atBlanks then (part.reverse.dropWhile (· != ' ')).length else part.length
      let count := if kept = 0 then width else kept
      line.take count ++ '\n' :: foldLine width atBlanks fuel (line.drop count)

/-- Break lines that are too long. -/
def fold : Utility Nat := do
  let (options, operands) ← OptionTable.read {
    letters := "bsw:".toList, names := [("bytes", 'b'), ("spaces", 's'), ("width", 'w')] }
  let width ←
    match value? options 'w' with
    | none => pure 80
    | some text =>
      match number? text with
      | some 0 => fail ("invalid number of columns: ".toList ++ quoted text)
      | some width => pure width
      | none => fail ("invalid number of columns: ".toList ++ quoted text)
  (Transducer.ofLines (fun () line =>
    let body := withoutTerminator line
    ((), foldLine width (has options 's') body.length body ++ line.drop body.length))
    fun () => []).run ((), []) operands

/-- The marks between columns of a text where a backslash starts an escape. -/
def readMarks : List Char → List (List Char)
  | '\\' :: 'n' :: rest => ['\n'] :: readMarks rest
  | '\\' :: 't' :: rest => ['\t'] :: readMarks rest
  | '\\' :: '0' :: rest => [] :: readMarks rest
  | '\\' :: char :: rest => [char] :: readMarks rest
  | char :: rest => [char] :: readMarks rest
  | [] => []

/-- Columns next to each other, given the marks that stand between them and those that come
again after them. -/
def besides (all : List (List Char)) : List (List Char) → List (List Char) → List Char
  | _, [] => []
  | _, [text] => text
  | marks, text :: others =>
    match marks with
    | mark :: marks => text ++ mark ++ besides all marks others
    | [] =>
      match all with
      | mark :: marks => text ++ mark ++ besides all marks others
      | [] => text ++ besides all [] others

/-- Lines of several texts next to each other. The fuel bounds their number. -/
def columns (marks : List (List Char)) : Nat → List (List (List Char)) → List Char
  | 0, _ => []
  | fuel + 1, texts =>
    if texts.all List.isEmpty then []
    else
      besides marks marks (texts.map fun lines => lines.headD []) ++
        '\n' :: columns marks fuel (texts.map (List.drop 1))

/-- Every so many of some lines, starting with one of them. -/
def everyNth (lines : List (List Char)) (count index : Nat) : List (List Char) :=
  (lines.zipIdx.filter fun (_, place) => place % count = index).map Prod.fst

/-- Show the lines of the inputs next to each other. -/
def paste : Utility Nat := do
  let (options, operands) ← OptionTable.read {
    letters := "d:sz".toList, names := [("delimiters", 'd'), ("serial", 's')] }
  let marks := match value? options 'd' with
    | none => [['\t']]
    | some [] => [[]]
    | some text => readMarks text
  let operands := inputs operands
  let (texts, complete) ← readOperands operands.eraseDups
  unless complete do exit 1
  let lines (path : List Char) : List (List Char) := plainLines ((texts.lookup path).getD [])
  if has options 's' then
    write (operands.flatMap fun path => besides marks marks (lines path) ++ ['\n'])
  else
    let inputCount := operands.count ['-']
    let (_, parts) := operands.foldl (fun (index, parts) path =>
      if path = ['-'] then (index + 1, everyNth (lines path) inputCount index :: parts)
      else (index, lines path :: parts)) (0, [])
    let parts := parts.reverse
    let count := (parts.map List.length).foldl max 0
    write (columns marks count parts)
  return 0

end Crosscheck.Utility
