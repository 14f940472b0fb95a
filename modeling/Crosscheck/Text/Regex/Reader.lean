import Crosscheck.Text.Regex

/-!
# Reading regular expressions

There are two ways to write regular expressions: in the basic one most operators are written
with a backslash, in the extended one without.
-/

namespace Crosscheck.Text.Regex

/-- How expressions are written. -/
structure Dialect where
  extended : Bool := false
  /-- Whether escapes stand for control characters. -/
  escapes : Bool := false
  /-- Whether an operator is refused where it has nothing to work on. -/
  strict : Bool := false

/-- Why a text is no expression. -/
inductive Fault where
  | openBracket
  | openGroup
  | closedGroup
  | openInterval
  | badInterval
  | tooBig
  | nothingRepeated
  | trailingBackslash
  | badReference
  | badRange
  | badClass
  deriving DecidableEq, Repr

/-- The wording of why a text is no expression. -/
def Fault.message : Fault → String
  | .openBracket => "Unmatched [, [^, [:, [., or [="
  | .openGroup => "Unmatched ( or \\("
  | .closedGroup => "Unmatched ) or \\)"
  | .openInterval => "Unmatched \\\x7b"
  | .badInterval => "Invalid content of \\\x7b\\\x7d"
  | .tooBig => "Regular expression too big"
  | .nothingRepeated => "Invalid preceding regular expression"
  | .trailingBackslash => "Trailing backslash"
  | .badReference => "Invalid back reference"
  | .badRange => "Invalid range end"
  | .badClass => "Invalid character class name"

/-- What is read of a text: the rest and the number of groups so far. -/
structure Progress where
  rest : List Char
  groups : Nat := 0
  /-- The groups that are complete. -/
  closed : List Nat := []
  depth : Nat := 0

/-- Reads an expression from the front of a text. -/
abbrev Reader := StateT Progress (Except Fault)

namespace Reader

/-- Take a text if it stands ahead. -/
def accept (text : String) : Reader Bool := do
  let progress ← get
  if text.toList.isPrefixOf progress.rest then
    set { progress with rest := progress.rest.drop text.length }
    return true
  return false

/-- Take a number of characters. -/
def drop (count : Nat) : Reader Unit :=
  modify fun progress => { progress with rest := progress.rest.drop count }

/-- The characters of a named class. -/
def classRanges? (name : List Char) : Option (List (Char × Char)) :=
  match String.ofList name with
  | "digit" => some [('0', '9')]
  | "lower" => some [('a', 'z')]
  | "upper" => some [('A', 'Z')]
  | "alpha" => some [('a', 'z'), ('A', 'Z')]
  | "alnum" => some [('0', '9'), ('a', 'z'), ('A', 'Z')]
  | "xdigit" => some [('0', '9'), ('a', 'f'), ('A', 'F')]
  | "space" => some [('\t', '\x0d'), (' ', ' ')]
  | "blank" => some [('\t', '\t'), (' ', ' ')]
  | "punct" => some [('!', '/'), (':', '@'), ('[', '\x60'), ('\x7b', '~')]
  | "cntrl" => some [('\x00', '\x1f'), ('\x7f', '\x7f')]
  | "print" => some [(' ', '~')]
  | "graph" => some [('!', '~')]
  | _ => none

/-- The control character that a letter stands for after a backslash. -/
def control? : Char → Option Char
  | 'n' => some '\n'
  | 't' => some '\t'
  | 'f' => some '\x0c'
  | 'v' => some '\x0b'
  | 'a' => some '\x07'
  | 'r' => some '\x0d'
  | _ => none

/-- Read what stands in brackets after the first of them. The fuel bounds the number of
characters. -/
def readRanges (dialect : Dialect) : Nat → Bool → Reader (List (Char × Char))
  | 0, _ => throw .openBracket
  | fuel + 1, isFirst => do
    match (← get).rest with
    | [] => throw .openBracket
    | ']' :: _ =>
      drop 1
      if isFirst then readFrom fuel ']' else return []
    | '[' :: ':' :: text =>
      let name := text.takeWhile (· != ':')
      match text.drop name.length with
      | ':' :: ']' :: _ =>
        drop (name.length + 4)
        match classRanges? name with
        | some ranges => return ranges ++ (← readRanges dialect fuel false)
        | none => throw .badClass
      | _ => throw .openBracket
    | '[' :: '=' :: char :: '=' :: ']' :: _ =>
      drop 5
      return (char, char) :: (← readRanges dialect fuel false)
    | '[' :: '.' :: char :: '.' :: ']' :: _ =>
      drop 5
      readFrom fuel char
    | '\\' :: letter :: _ =>
      match if dialect.escapes then control? letter else none with
      | some char =>
        drop 2
        readFrom fuel char
      | none =>
        drop 1
        readFrom fuel '\\'
    | char :: _ =>
      drop 1
      readFrom fuel char
where
  /-- Read what follows a character, which may be the first of a range. -/
  readFrom (fuel : Nat) (first : Char) : Reader (List (Char × Char)) := do
    match (← get).rest with
    | '-' :: last :: rest =>
      if last == ']' then return (first, first) :: (← readRanges dialect fuel false)
      let (last, length) : Char × Nat :=
        match last, rest with
        | '[', '.' :: char :: '.' :: ']' :: _ => (char, 6)
        | _, _ => (last, 2)
      if last < first then throw .badRange
      drop length
      return (first, last) :: (← readRanges dialect fuel false)
    | _ => return (first, first) :: (← readRanges dialect fuel false)

/-- Read the bounds of an interval up to its closing brace; `none` if there are none. -/
def readInterval? (dialect : Dialect) : Reader (Option (Nat × Option Nat)) := do
  let text := (← get).rest
  let number (digits : List Char) : Option Nat := (String.ofList digits).toNat?
  let first := text.takeWhile Char.isDigit
  let rest := text.drop first.length
  let (isRange, second, rest) : Bool × List Char × List Char :=
    match rest with
    | ',' :: rest =>
      let second := rest.takeWhile Char.isDigit
      (true, second, rest.drop second.length)
    | rest => (false, [], rest)
  let closing := if dialect.extended then ['\x7d'] else ['\\', '\x7d']
  if (first.isEmpty && !isRange) || !closing.isPrefixOf rest then return none
  let least := (number first).getD 0
  let greatest := if isRange then number second else some least
  if greatest.any (· < least) then throw .badInterval
  if 32767 < greatest.getD least then throw .tooBig
  modify fun progress => { progress with rest := rest.drop closing.length }
  return some (least, greatest)

mutual

/-- Read alternatives up to the end or a closing parenthesis. -/
def readAlternatives (dialect : Dialect) : Nat → Reader Regex
  | 0 => throw .openGroup
  | fuel + 1 => do
    let first ← readBranch dialect fuel true
    if ← accept (if dialect.extended then "|" else "\\|") then
      return .either first (← readAlternatives dialect fuel)
    return first

/-- Read expressions that follow each other. -/
def readBranch (dialect : Dialect) : Nat → Bool → Reader Regex
  | 0, _ => throw .openGroup
  | fuel + 1, isFirst => do
    let progress ← get
    let ends :=
      match progress.rest with
      | [] => true
      | '|' :: _ => dialect.extended
      | ')' :: _ => dialect.extended && (dialect.strict || 0 < progress.depth)
      | '\\' :: '|' :: _ => !dialect.extended
      | '\\' :: ')' :: _ => !dialect.extended
      | _ => false
    if ends then return .empty
    let atom ← readAtom dialect fuel isFirst
    let isAnchor :=
      match atom with
      | .lineStart => !dialect.extended || dialect.strict
      | _ => false
    let piece ← if isAnchor then pure atom else readRepetitions dialect fuel atom
    return .sequence piece (← readBranch dialect fuel (isAnchor && !dialect.extended))

/-- Read the operators after an expression that say how often it occurs. -/
def readRepetitions (dialect : Dialect) : Nat → Regex → Reader Regex
  | 0, _ => throw .openGroup
  | fuel + 1, atom => do
    let operator (name : String) : Reader Bool :=
      accept (if dialect.extended then name else "\\" ++ name)
    let further (piece : Regex) : Reader Regex := do
      let rest := (← get).rest
      if dialect.strict && !dialect.extended &&
          ("*".toList.isPrefixOf rest || "\\\x7b".toList.isPrefixOf rest) then
        throw .nothingRepeated
      readRepetitions dialect fuel piece
    if ← accept "*" then further (.star atom)
    else if ← operator "+" then further (.sequence atom (.star atom))
    else if ← operator "?" then further (.either atom .empty)
    else
      let before ← get
      if ← operator "\x7b" then
        match ← readInterval? dialect with
        | some (least, greatest) => further (atom.times least greatest)
        | none =>
          if !dialect.extended || dialect.strict then
            throw (if (← get).rest.contains '\x7d' then .badInterval else .openInterval)
          set before
          return atom
      else return atom

/-- Read an expression without its repetitions. -/
def readAtom (dialect : Dialect) : Nat → Bool → Reader Regex
  | 0, _ => throw .openGroup
  | fuel + 1, isFirst => do
    match (← get).rest with
    | [] => return .empty
    | '\\' :: rest =>
      match rest with
      | [] => throw .trailingBackslash
      | letter :: _ =>
        drop 2
        readEscaped dialect fuel letter
    | '[' :: rest =>
      let negated := rest.head? == some '^'
      drop (if negated then 2 else 1)
      let ranges ← readRanges dialect ((← get).rest.length + 1) true
      return .oneOf negated ranges
    | '.' :: _ =>
      drop 1
      return .anyChar
    | '^' :: _ =>
      drop 1
      return if dialect.extended || isFirst then .lineStart else .exactly '^'
    | '$' :: rest =>
      drop 1
      let isLast :=
        rest.isEmpty || "\\)".toList.isPrefixOf rest || "\\|".toList.isPrefixOf rest
      return if dialect.extended || isLast then .lineEnd else .exactly '$'
    | '(' :: _ =>
      drop 1
      if dialect.extended then readGroup dialect fuel else return .exactly '('
    | char :: _ =>
      if dialect.extended && dialect.strict && "*+?\x7b".toList.contains char then
        throw .nothingRepeated
      if dialect.extended && "*+?".toList.contains char then
        drop 1
        readAtom dialect fuel isFirst
      else
        drop 1
        return .exactly char

/-- Read a group after its opening parenthesis. -/
def readGroup (dialect : Dialect) : Nat → Reader Regex
  | 0 => throw .openGroup
  | fuel + 1 => do
    let number := (← get).groups + 1
    modify fun progress => { progress with groups := number, depth := progress.depth + 1 }
    let body ← readAlternatives dialect fuel
    unless ← accept (if dialect.extended then ")" else "\\)") do throw .openGroup
    modify fun progress =>
      { progress with closed := number :: progress.closed, depth := progress.depth - 1 }
    return .group number body

/-- Read what a backslash gives a meaning to. -/
def readEscaped (dialect : Dialect) : Nat → Char → Reader Regex
  | 0, _ => throw .openGroup
  | fuel + 1, letter => do
    let word : List (Char × Char) := [('0', '9'), ('a', 'z'), ('A', 'Z'), ('_', '_')]
    let space : List (Char × Char) := [('\t', '\x0d'), (' ', ' ')]
    match letter with
    | 'w' => return .oneOf false word
    | 'W' => return .oneOf true word
    | 's' => return .oneOf false space
    | 'S' => return .oneOf true space
    | 'b' => return .wordEdge false
    | 'B' => return .wordEdge true
    | '<' => return .wordStart
    | '>' => return .wordEnd
    | '\x60' => return .textStart
    | '\x27' => return .textEnd
    | '(' => if dialect.extended then return .exactly '(' else readGroup dialect fuel
    | ')' => if dialect.extended then return .exactly ')' else throw .closedGroup
    | _ =>
      if '1' ≤ letter && letter ≤ '9' then
        let number := letter.toNat - 48
        unless (← get).closed.contains number do throw .badReference
        return .again number
      if !dialect.extended && letter == '\x7b' then throw .nothingRepeated
      match if dialect.escapes then control? letter else none with
      | some char => return .exactly char
      | none => return .exactly letter

end

end Reader

/-- The expression that a text writes, with the number of its groups. -/
def read (dialect : Dialect) (text : List Char) : Except Fault (Regex × Nat) := do
  let (regex, progress) ←
    (Reader.readAlternatives dialect (8 * text.length + 8)).run { rest := text }
  match progress.rest with
  | [] => return (regex, progress.groups)
  | _ => throw .closedGroup

end Crosscheck.Text.Regex
