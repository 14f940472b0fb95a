import Crosscheck.Text.Regex.Reader
import Crosscheck.Utility.Stream

/-!
# Searching for lines

Lines that match one of several expressions are shown, counted or only looked for. The search
ends as soon as its answer is known.
-/

namespace Crosscheck.Utility.Search

open Text (Regex)

/-- What is searched for and what is shown. -/
structure Plan where
  regexes : List Regex
  ignoresCase : Bool := false
  inverted : Bool := false
  counts : Bool := false
  numbers : Bool := false
  quiet : Bool := false
  /-- Whether only the names of inputs with matches are shown, or of those without. -/
  namesMatching : Bool := false
  namesMissing : Bool := false
  onlyMatches : Bool := false
  names : Bool := false
  isSilent : Bool := false
  isText : Bool := false
  limit : Option Nat := none
  before : Nat := 0
  after : Nat := 0

/-- What is known of an input on the way. -/
structure Progress where
  line : Nat := 0
  selected : Nat := 0
  /-- The lines before that may be shown, latest first, with their numbers. -/
  recent : List (Nat × List Char) := []
  /-- How many lines after a match are still to be shown. -/
  following : Nat := 0
  /-- The number of the last line that was shown. -/
  shown : Nat := 0
  stopped : Bool := false

/-- The matches of an expression in a text from a place on. The fuel bounds their number. -/
def matchesFrom (plan : Plan) (subject : Regex.Subject) : Nat → Nat → List Regex.Match
  | 0, _ => []
  | fuel + 1, index =>
    let found := plan.regexes.filterMap fun regex => regex.search? subject index
    let best := found.foldl (fun best other =>
      match best with
      | none => some other
      | some best =>
        if other.first < best.first || (other.first = best.first && best.last < other.last) then
          some other
        else some best) (none : Option Regex.Match)
    match best with
    | none => []
    | some best =>
      best :: matchesFrom plan subject fuel (if best.last = best.first then best.last + 1 else best.last)

/-- A line in which matches are looked for. -/
def Plan.subject (plan : Plan) (line : List Char) : Regex.Subject :=
  { chars := line.toArray, ignoresCase := plan.ignoresCase }

/-- Whether a line is one of those that are searched for. -/
def Plan.selects (plan : Plan) (line : List Char) : Bool :=
  (plan.regexes.any fun regex => (regex.search? (plan.subject line) 0).isSome) != plan.inverted

/-- What stands before a line that is shown. -/
def label (plan : Plan) (name : List Char) (separator : Char) (number : Nat) : List Char :=
  (if plan.names then name ++ [separator] else []) ++
    (if plan.numbers then Text.digits number ++ [separator] else [])

/-- A selected line as it is shown. -/
def showLine (plan : Plan) (name : List Char) (number : Nat) (line : List Char) : List Char :=
  if plan.onlyMatches then
    if plan.inverted then []
    else
      let subject := plan.subject line
      (matchesFrom plan subject (line.length + 1) 0).flatMap fun found =>
        if found.first = found.last then []
        else label plan name ':' number ++ subject.slice found.first found.last ++ ['\n']
  else label plan name ':' number ++ line ++ ['\n']

/-- Whether lines are shown at all. -/
def Plan.showsLines (plan : Plan) : Bool :=
  !(plan.quiet || plan.counts || plan.namesMatching || plan.namesMissing)

/-- Go on by a line, which is known without its terminator. -/
def step (plan : Plan) (name : List Char) (progress : Progress) (line : List Char) :
    Progress × List Char :=
  let number := progress.line + 1
  let progress := { progress with line := number }
  if plan.selects line then
    let selected := progress.selected + 1
    let stopped := plan.quiet || plan.namesMatching || plan.namesMissing ||
      plan.limit.any fun limit => limit ≤ selected && plan.after = 0
    let context := progress.recent.reverse
    let first := (context.head?.map Prod.fst).getD number
    let hasContext := 0 < plan.before || 0 < plan.after
    let gap :=
      if hasContext && 0 < progress.shown && progress.shown + 1 < first then "--\n".toList else []
    let text :=
      if plan.showsLines then
        gap ++ (if plan.onlyMatches then [] else context.flatMap fun (number, line) =>
          label plan name '-' number ++ line ++ ['\n']) ++ showLine plan name number line
      else []
    ({ progress with
        selected, stopped, recent := [], following := plan.after, shown := number }, text)
  else if 0 < progress.following then
    let text :=
      if plan.showsLines && !plan.onlyMatches then label plan name '-' number ++ line ++ ['\n']
      else []
    let isLast := progress.following = 1 && plan.limit.any fun limit => limit ≤ progress.selected
    ({ progress with
        following := progress.following - 1, shown := number, stopped := isLast }, text)
  else
    ({ progress with recent := ((number, line) :: progress.recent).take plan.before }, [])

/-- Go on by lines until the search ends. The answer includes what was not looked at. -/
def steps (plan : Plan) (name : List Char) (progress : Progress) :
    List (List Char) → Progress × List Char × List (List Char)
  | [] => (progress, [], [])
  | line :: rest =>
    if progress.stopped then (progress, [], line :: rest)
    else
      let (progress, text) := step plan name progress (withoutTerminator line)
      let (progress, more, left) := steps plan name progress rest
      (progress, text ++ more, left)

/-- Search what is read from an open file, given the line that has begun. The fuel bounds the
number of blocks. -/
def searchHandle (plan : Plan) (name : List Char) (eager : Bool) (handle : Handle) :
    Nat → List Char → Progress → Pending → Utility (Progress × Pending × Option FileError)
  | 0, _, progress, pending => return (progress, pending, none)
  | fuel + 1, started, progress, pending => do
    match ← Activity.readSome handle 32768 with
    | .error error => return (progress, pending, some error)
    | .ok octets =>
      Activity.pause blockTime
      let lines := Text.lines (started ++ Text.ofOctets octets)
      let isEnd := octets.isEmpty
      let (complete, rest) :=
        match lines.getLast? with
        | some last =>
          if isEnd || last.getLast? == some '\n' then (lines, []) else (lines.dropLast, last)
        | none => ([], [])
      if !plan.isText && plan.showsLines &&
          complete.any fun line => line.contains '\x00' then
        let (progress, _, _) := steps plan name progress complete
        if 0 < progress.selected then complain (name ++ ": binary file matches".toList)
        return (progress, pending, none)
      let (progress, text, left) := steps plan name progress complete
      let pending ← (pending.push text).settle eager
      if progress.stopped then
        Activity.giveBack handle (left.flatten.length + rest.length)
        return (progress, pending, none)
      if isEnd then return (progress, pending, none)
      searchHandle plan name eager handle fuel rest progress pending

/-- Say why an input could not be searched. -/
def complainOf (plan : Plan) (path : List Char) (error : FileError) : Utility Unit := do
  unless plan.isSilent do Utility.complainOf path error

/-- Search the operands; the answer tells whether anything was selected and whether there was
a mistake. -/
def searchAll (plan : Plan) (eager : Bool) :
    List (List Char) → Pending → Utility (Bool × Bool × Pending)
  | [], pending => return (false, false, pending)
  | path :: others, pending => do
    let name := if path = ['-'] then "(standard input)".toList else path
    match ← openOperand path with
    | .error error =>
      complainOf plan name error
      let (found, _, pending) ← searchAll plan eager others pending
      return (found, true, pending)
    | .ok handle =>
      let (progress, pending, error) ← searchHandle plan name eager handle plenty [] {} pending
      closeOperand handle
      match error with
      | some error => complainOf plan name error
      | none => pure ()
      let isFound := 0 < progress.selected
      let text :=
        if plan.quiet then []
        else if plan.namesMatching then (if isFound then name ++ ['\n'] else [])
        else if plan.namesMissing then (if isFound then [] else name ++ ['\n'])
        else if plan.counts then
          label { plan with numbers := false } name ':' 0 ++ Text.digits progress.selected ++ ['\n']
        else []
      let pending ← (pending.push text).settle eager
      if isFound && plan.quiet then return (true, false, pending)
      let (found, failed, pending) ← searchAll plan eager others pending
      return (isFound || found, error.isSome || failed, pending)

/-- How expressions are written. -/
inductive Writing where
  | basic
  | extended
  | plain
  deriving DecidableEq

/-- The expression of a text. -/
def readRegex (writing : Writing) (lines words : Bool) (text : List Char) : Utility Regex := do
  let regex ←
    match writing with
    | .plain => pure (Regex.ofText text)
    | writing =>
      match Regex.read { extended := writing = .extended } text with
      | .ok (regex, _) => pure regex
      | .error fault =>
        fail fault.message.toList 2
  return if lines then .sequence .lineStart (.sequence regex .lineEnd)
    else if words then .sequence .noWordBefore (.sequence regex .noWordAfter)
    else regex

/-- How the search is used. -/
def usage : List Char :=
  ("Usage: grep [OPTION]... PATTERNS [FILE]...\n" ++
    "Try 'grep --help' for more information.\n").toList

/-- The texts of expressions that options give, each on a line. -/
def givenPatterns : List OptionValue → Utility (List (List Char))
  | [] => return []
  | (letter, value) :: others => do
    let here ←
      if letter == 'e' then pure (Program.divide '\n' value)
      else if letter == 'f' then
        match ← readOperand value with
        | .ok text => pure (plainLines text)
        | .error error => do
          fail (value ++ ": ".toList ++ error.reason.toList) 2
      else pure []
    return here ++ (← givenPatterns others)

/-- The number of lines that an option gives. -/
def context (options : List OptionValue) (letter : Char) : Nat :=
  ((value? options letter).bind number?).getD (((value? options 'C').bind number?).getD 0)

/-- Search for lines. -/
def grep : Utility Nat := do
  let (options, operands) ← OptionTable.read {
    letters := "abcEFGHILPUZhilnoqsvwxyze:f:m:A:B:C:".toList
    names := [("extended-regexp", 'E'), ("fixed-strings", 'F'), ("basic-regexp", 'G'),
      ("regexp", 'e'), ("file", 'f'), ("ignore-case", 'i'), ("invert-match", 'v'),
      ("word-regexp", 'w'), ("line-regexp", 'x'), ("count", 'c'), ("line-number", 'n'),
      ("quiet", 'q'), ("silent", 'q'), ("files-with-matches", 'l'), ("files-without-match", 'L'),
      ("only-matching", 'o'), ("no-filename", 'h'), ("with-filename", 'H'), ("no-messages", 's'),
      ("max-count", 'm'), ("after-context", 'A'), ("before-context", 'B'), ("context", 'C'),
      ("text", 'a'), ("line-buffered", 'Z'), ("perl-regexp", 'P')]
    fault := 2, usage := some usage }
  let isGiven := has options 'e' || has options 'f'
  let (patterns, operands) ←
    if isGiven then do pure ((← givenPatterns options), operands)
    else
      match operands with
      | [] => do
        discard (writeTo 2 usage)
        exit 2
      | pattern :: operands => pure (Program.divide '\n' pattern, operands)
  let kinds := options.filter fun (letter, _) => "EFGP".toList.contains letter
  let writing : Writing :=
    match kinds.getLast? with
    | some ('E', _) => .extended
    | some ('P', _) => .extended
    | some ('F', _) => .plain
    | _ => .basic
  let regexes ← patterns.mapM (readRegex writing (has options 'x') (has options 'w'))
  let limit := (value? options 'm').bind number?
  let plan : Plan := {
    regexes
    ignoresCase := has options 'i' || has options 'y'
    inverted := has options 'v', counts := has options 'c', numbers := has options 'n'
    quiet := has options 'q', namesMatching := has options 'l', namesMissing := has options 'L'
    onlyMatches := has options 'o', isSilent := has options 's', isText := has options 'a'
    names := (1 < operands.length || has options 'H') && !has options 'h'
    limit, before := context options 'B', after := context options 'A' }
  if limit = some 0 then exit 1
  let eager := (← isEager) || has options 'Z'
  let (found, failed, pending) ← searchAll plan eager (inputs operands) {}
  discard pending.flush
  return if failed && !(plan.quiet && found) then 2 else if found then 0 else 1

end Crosscheck.Utility.Search
