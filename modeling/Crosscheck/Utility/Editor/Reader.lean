import Crosscheck.Text.Regex.Reader
import Crosscheck.Utility.Editor.Syntax
import Crosscheck.Utility.Transliterate

/-!
# Reading editing scripts

What is wrong with a script is told together with the number of characters that were read up
to there.
-/

namespace Crosscheck.Utility.Editor

open Text (Regex)

/-- What is wrong with a script, and after how many characters. -/
structure Fault where
  place : Nat
  about : List Char
  /-- Whether it is not the fault of what stands there. -/
  isOpen : Bool := false

/-- What is known while a script is read. -/
structure Progress where
  rest : List Char
  taken : Nat := 0
  extended : Bool := false
  script : Script := {}
  /-- The blocks that are open, innermost first: the places of their instructions and the
  characters before them. -/
  blocks : List (Nat × Nat) := []

/-- Reads something from the front of a script. -/
abbrev Reader := StateT Progress (Except Fault)

namespace Reader

/-- Refuse the script. -/
def refuse {α : Type} (about : String) : Reader α := do
  throw { place := (← get).taken, about := about.toList }

/-- The text ahead. -/
def ahead : Reader (List Char) := return (← get).rest

/-- Take a number of characters. -/
def take (count : Nat) : Reader (List Char) := do
  let progress ← get
  set { progress with
    rest := progress.rest.drop count
    taken := progress.taken + min count progress.rest.length }
  return progress.rest.take count

/-- Take the characters up to the first that fails a test. -/
def takeWhile (test : Char → Bool) : Reader (List Char) := do
  take ((← ahead).takeWhile test).length

/-- Take a text if it stands ahead. -/
def accept (text : String) : Reader Bool := do
  if text.toList.isPrefixOf (← ahead) then
    discard (take text.length)
    return true
  return false

/-- Whether a character is a blank. -/
def isBlank (char : Char) : Bool := char == ' ' || char == '\t'

/-- Whether a character is a blank or ends a line. -/
def isSpace (char : Char) : Bool := isBlank char || ('\n' ≤ char && char ≤ '\x0d')

/-- Take the blanks ahead. -/
def skipBlanks : Reader Unit := discard (takeWhile isBlank)

/-- Read digits. -/
def readNumber : Reader (Option Nat) := do
  return number? (← takeWhile Char.isDigit)

/-! ## Texts between delimiters -/

/-- Take the rest of what stands in brackets, which may hold a delimiter. The fuel bounds the
number of characters. -/
def takeBrackets : Nat → Reader (List Char)
  | 0 => return []
  | fuel + 1 => do
    match ← ahead with
    | [] => return []
    | '\n' :: _ => return []
    | ']' :: _ => take 1
    | '[' :: mark :: rest =>
      let name := rest.takeWhile (· != mark)
      let isNamed := ":.=".toList.contains mark && [mark, ']'].isPrefixOf (rest.drop name.length)
      let text ← take (if isNamed then name.length + 4 else 1)
      return text ++ (← takeBrackets fuel)
    | _ => return (← take 1) ++ (← takeBrackets fuel)

/-- Read the text up to a delimiter, where a backslash before the delimiter or before the end
of a line is taken away. The fuel bounds the number of characters. -/
def readDelimited (delimiter : Char) (isRegex : Bool) (fault : String) : Nat → Reader (List Char)
  | 0 => refuse fault
  | fuel + 1 => do
    let further (text : List Char) : Reader (List Char) := do
      return text ++ (← readDelimited delimiter isRegex fault fuel)
    match ← ahead with
    | [] => refuse fault
    | '\n' :: _ => refuse fault
    | ['\\'] =>
      discard (take 1)
      refuse fault
    | '\\' :: char :: _ =>
      discard (take 2)
      let isBare := char == '\n' || (char == delimiter && (isRegex || char != '&'))
      further (if isBare then [char] else ['\\', char])
    | char :: rest =>
      discard (take 1)
      if char == delimiter then return []
      if char == '[' && isRegex then
        let negated := rest.head? == some '^'
        let rest := if negated then rest.drop 1 else rest
        let start ← take ((if negated then 1 else 0) + (if rest.head? == some ']' then 1 else 0))
        further ('[' :: start ++ (← takeBrackets ((← ahead).length + 1)))
      else further [char]

/-- The character that an escape stands for, given what follows the backslash. -/
def escape? : List Char → Option (Char × Nat)
  | 'd' :: rest => code 10 3 rest
  | 'o' :: rest => code 8 3 rest
  | 'x' :: rest => code 16 2 rest
  | 'c' :: char :: _ => some (Char.ofNat (Nat.xor char.toUpper.toNat 64), 2)
  | letter :: _ => (Regex.Reader.control? letter).map fun char => (char, 1)
  | [] => none
where
  code (base limit : Nat) (text : List Char) : Option (Char × Nat) :=
    let isDigit (char : Char) : Bool :=
      if base = 16 then char.isDigit || ('a' ≤ char.toLower && char.toLower ≤ 'f')
      else '0' ≤ char && char.toNat < 48 + base
    let digits := (text.take limit).takeWhile isDigit
    if digits.isEmpty then none
    else
      some (Crosscheck.Script.Format.octetChar (Crosscheck.Script.Format.valueIn base digits),
        digits.length + 1)

/-- Replace the escapes that give the code of a character. -/
def expandCodes : List Char → List Char
  | [] => []
  | '\\' :: letter :: rest =>
    match if "doxc".toList.contains letter then escape? (letter :: rest) else none with
    | some (char, count) => char :: (expandCodes rest).drop (count - 1)
    | none => '\\' :: letter :: expandCodes rest
  | char :: rest => char :: expandCodes rest

/-- The expression of a text; an empty one stands for the last that was used. -/
def readRegex (text : List Char) : Reader (Option (Regex × Nat)) := do
  if text.isEmpty then return none
  let extended := (← get).extended
  match Regex.read { extended, escapes := true, strict := true } (expandCodes text) with
  | .ok answer => return some answer
  | .error fault => refuse fault.message

/-! ## Addresses -/

/-- Read the letters after an expression in an address. The fuel bounds their number. -/
def readSearchFlags : Nat → Search → Reader Search
  | 0, search => return search
  | fuel + 1, search => do
    if ← accept "I" then readSearchFlags fuel { search with ignoresCase := true }
    else if ← accept "M" then readSearchFlags fuel { search with hasLines := true }
    else return search

/-- Read an address. -/
def readAddress : Reader (Option Address) := do
  match ← ahead with
  | '$' :: _ =>
    discard (take 1)
    return some .last
  | '/' :: _ =>
    discard (take 1)
    readSearch '/'
  | '\\' :: delimiter :: _ =>
    discard (take 2)
    readSearch delimiter
  | char :: _ =>
    if !char.isDigit then return none
    let first := (← readNumber).getD 0
    skipBlanks
    if ← accept "~" then return some (.every first ((← readNumber).getD 0))
    return some (.line first)
  | [] => return none
where
  /-- Read an expression up to a delimiter. -/
  readSearch (delimiter : Char) : Reader (Option Address) := do
    let text ← readDelimited delimiter true "unterminated address regex" ((← ahead).length + 1)
    let regex ← readRegex text
    let search ← readSearchFlags 10 { regex := regex.map Prod.fst }
    return some (.search search)

/-- Refuse the line zero, which cannot be selected. -/
def refuseZero {α : Type} : Reader α := do
  skipBlanks
  discard (take 1)
  refuse "invalid usage of line address 0"

/-- Read the addresses before an instruction. -/
def readSelection : Reader Selection := do
  match ← readAddress with
  | none =>
    if (← accept "+") || (← accept "~") then
      discard readNumber
      refuse "invalid usage of +N or ~N as first address"
    return .all
  | some first =>
    skipBlanks
    let isZero := match first with
      | .line 0 => true
      | _ => false
    if ← accept "," then
      skipBlanks
      let last ←
        if ← accept "+" then pure (RangeEnd.later ((← readNumber).getD 0))
        else if ← accept "~" then pure (RangeEnd.multiple ((← readNumber).getD 0))
        else
          match ← readAddress with
          | some address => pure (RangeEnd.address address)
          | none =>
            discard (take 1)
            refuse "unexpected \x60,'"
      if isZero then
        match last with
        | .address (.search _) => return .range none last
        | _ => refuseZero
      return .range (some first) last
    if isZero then refuseZero
    return .one first

/-! ## Texts and names -/

/-- The text of an instruction up to the end of its line. Lines that end with a backslash go
on, and other backslashes protect what follows. The fuel bounds the number of characters. -/
def readText : Nat → Reader (List Char)
  | 0 => return []
  | fuel + 1 => do
    match ← take 1 with
    | [] => return ['\n']
    | ['\n'] => return ['\n']
    | ['\\'] =>
      match escape? (← ahead) with
      | some (char, count) =>
        discard (take count)
        return char :: (← readText fuel)
      | none =>
        match ← take 1 with
        | [] => return ['\n']
        | char => return char ++ (← readText fuel)
    | char => return char ++ (← readText fuel)

/-- Read the text of an instruction that adds text. It stands on the next line after a
backslash, or on the same line, where a backslash before it keeps the blanks that it starts
with. -/
def readAddedText : Reader (List Char) := do
  skipBlanks
  let fuel := (← ahead).length + 1
  match ← ahead with
  | [] => refuse "expected \\ after \x60a', \x60c' or \x60i'"
  | '\\' :: rest =>
    let blanks := rest.takeWhile isBlank
    match rest.drop blanks.length with
    | '\n' :: _ => discard (take (blanks.length + 2))
    | _ => discard (take 1)
    if rest.isEmpty then return []
    match ← ahead with
    | '\\' :: _ => readText fuel
    | _ => return (← take 1) ++ (← readText fuel)
  | _ => readText fuel

/-- Read a label. -/
def readLabel : Reader (List Char) := do
  skipBlanks
  takeWhile fun char => !isSpace char && char != ';' && char != '\x7d'

/-- Read the path of a file up to the end of the line. -/
def readPath : Reader (List Char) := do
  skipBlanks
  let path ← takeWhile (· != '\n')
  if path.isEmpty then refuse "missing filename in r/R/w/W commands"
  return path

/-- Read the path of a file that is written to. -/
def readTarget : Reader Target := do
  let path ← readPath
  if path = "/dev/stdout".toList then return .out
  else if path = "/dev/stderr".toList then return .err
  else return .file path

/-- Nothing but blanks and comments may follow an instruction on its line. -/
def endInstruction : Reader Unit := do
  skipBlanks
  match ← ahead with
  | [] => pure ()
  | char :: _ =>
    if char == '\n' || char == ';' then discard (take 1)
    else if char == '\x7d' || char == '#' then pure ()
    else
      discard (take 1)
      refuse "extra characters after command"

/-! ## Substitutions -/

/-- Join plain characters. -/
def joinText (text : List Char) (rest : List Replacement) : List Replacement :=
  match rest with
  | .text more :: others => .text (text ++ more) :: others
  | others => .text text :: others

/-- The parts of a replacement. The fuel bounds their number. -/
def readReplacement : Nat → List Char → List Replacement
  | 0, _ => []
  | _, [] => []
  | fuel + 1, '&' :: rest => .group 0 :: readReplacement fuel rest
  | fuel + 1, '\\' :: rest =>
    match rest with
    | [] => [.text ['\\']]
    | 'U' :: rest => .change (some true) :: readReplacement fuel rest
    | 'L' :: rest => .change (some false) :: readReplacement fuel rest
    | 'E' :: rest => .change none :: readReplacement fuel rest
    | 'u' :: rest => .changeNext true :: readReplacement fuel rest
    | 'l' :: rest => .changeNext false :: readReplacement fuel rest
    | char :: after =>
      if char.isDigit then .group (char.toNat - 48) :: readReplacement fuel after
      else
        match escape? rest with
        | some (char, count) => joinText [char] (readReplacement fuel (rest.drop count))
        | none => joinText [char] (readReplacement fuel after)
  | fuel + 1, char :: rest => joinText [char] (readReplacement fuel rest)

/-- Read the letters after a substitution. The fuel bounds their number. -/
def readFlags : Nat → Bool → Substitution → Reader Substitution
  | 0, _, substitution => return substitution
  | fuel + 1, counted, substitution => do
    match ← ahead with
    | [] => return substitution
    | char :: _ =>
      let search := substitution.search
      if char == '\n' || char == ';' then
        discard (take 1)
        return substitution
      else if char == '\x7d' || char == '#' then return substitution
      else if char.isDigit then
        if counted then
          discard (take 1)
          refuse "multiple number options to \x60s' command"
        let first := (← readNumber).getD 0
        if first = 0 then refuse "number option to \x60s' command may not be zero"
        readFlags fuel true { substitution with first }
      else
        discard (take 1)
        match char with
        | 'g' =>
          if substitution.isGlobal then refuse "multiple \x60g' options to \x60s' command"
          readFlags fuel counted { substitution with isGlobal := true }
        | 'p' =>
          if 0 < substitution.prints then refuse "multiple \x60p' options to \x60s' command"
          readFlags fuel counted { substitution with prints := substitution.prints + 1 }
        | 'i' =>
          readFlags fuel counted { substitution with search := { search with ignoresCase := true } }
        | 'I' =>
          readFlags fuel counted { substitution with search := { search with ignoresCase := true } }
        | 'm' =>
          readFlags fuel counted { substitution with search := { search with hasLines := true } }
        | 'M' =>
          readFlags fuel counted { substitution with search := { search with hasLines := true } }
        | 'w' => return { substitution with target := some (← readTarget) }
        | _ =>
          if isBlank char || char == '\x0d' then readFlags fuel counted substitution
          else refuse "unknown option to \x60s'"

/-- The greatest number of a group that a replacement refers to. -/
def greatestGroup (replacement : List Replacement) : Nat :=
  replacement.foldl (fun greatest part =>
    match part with
    | .group number => max greatest number
    | _ => greatest) 0

/-- Read a substitution after its letter. -/
def readSubstitution : Reader Substitution := do
  let fault := "unterminated \x60s' command"
  match ← take 1 with
  | [delimiter] =>
    if delimiter == '\n' || delimiter == '\\' then refuse fault
    let pattern ← readDelimited delimiter true fault ((← ahead).length + 1)
    let text ← readDelimited delimiter false fault ((← ahead).length + 1)
    let replacement := readReplacement (text.length + 1) text
    let substitution ← readFlags ((← ahead).length + 1) false
      { search := { regex := none }, replacement }
    let regex ← readRegex pattern
    let greatest := greatestGroup replacement
    if let some (_, groups) := regex then
      if groups < greatest then
        refuse s!"invalid reference \\{greatest} on \x60s' command's RHS"
    return { substitution with search := { substitution.search with regex := regex.map Prod.fst } }
  | _ => refuse fault

/-- The characters of a list for `y`, where escapes stand for control characters. -/
def readChars : Nat → List Char → List Char
  | 0, _ => []
  | _, [] => []
  | fuel + 1, '\\' :: rest =>
    match escape? rest, rest with
    | some (char, count), _ => char :: readChars fuel (rest.drop count)
    | none, char :: after => char :: readChars fuel after
    | none, [] => ['\\']
  | fuel + 1, char :: rest => char :: readChars fuel rest

/-- Read the pairs of characters of which the first is replaced by the second. -/
def readPairs : Reader (List (Char × Char)) := do
  let fault := "unterminated \x60y' command"
  match ← take 1 with
  | [delimiter] =>
    let source ← readDelimited delimiter false fault ((← ahead).length + 1)
    let target ← readDelimited delimiter false fault ((← ahead).length + 1)
    let source := readChars (source.length + 1) source
    let target := readChars (target.length + 1) target
    if source.length ≠ target.length then
      refuse "strings for \x60y' command are different lengths"
    return source.zip target
  | _ => refuse fault

/-! ## Instructions -/

/-- Add an instruction. -/
def add (instruction : Instruction) : Reader Unit :=
  modify fun progress =>
    { progress with
      script := { progress.script with
        instructions := progress.script.instructions.push instruction } }

/-- The end of the innermost block. -/
def closeBlock : Reader Unit := do
  let progress ← get
  match progress.blocks with
  | [] => refuse "unexpected \x60\x7d'"
  | (start, _) :: blocks =>
    let instructions := progress.script.instructions
    let after := instructions.size
    let instructions := instructions.modify start fun instruction =>
      { instruction with action := .block after }
    set { progress with blocks, script := { progress.script with instructions } }

/-- What a letter without an argument stands for. -/
def plainAction? : Char → Option Action
  | '=' => some .showNumber
  | 'd' => some .delete
  | 'D' => some .deleteFirst
  | 'F' => some .showName
  | 'g' => some (.fetch false)
  | 'G' => some (.fetch true)
  | 'h' => some (.hold false)
  | 'H' => some (.hold true)
  | 'n' => some .next
  | 'N' => some .appendNext
  | 'p' => some .print
  | 'P' => some .printFirst
  | 'x' => some .exchange
  | 'z' => some .clear
  | _ => none

/-- Read what an instruction does, after its letter. -/
def readAction (letter : Char) : Reader Action := do
  let label : Reader (Option (List Char)) := do
    let label ← readLabel
    endInstruction
    return if label.isEmpty then none else some label
  let number : Reader (Option Nat) := do
    skipBlanks
    let value ← readNumber
    endInstruction
    return value
  match plainAction? letter with
  | some action =>
    endInstruction
    return action
  | none =>
    match letter with
    | 'a' => return .append (← readAddedText)
    | 'i' => return .insert (← readAddedText)
    | 'c' => return .change (← readAddedText)
    | 'b' => return .jump (← label)
    | 't' => return .jumpIf true (← label)
    | 'T' => return .jumpIf false (← label)
    | 'l' => return .showLine (← number)
    | 'q' => return .quit true ((← number).getD 0)
    | 'Q' => return .quit false ((← number).getD 0)
    | 'r' => return .readFile (← readPath)
    | 'R' => return .readLine (← readPath)
    | 'w' => return .write false (← readTarget)
    | 'W' => return .write true (← readTarget)
    | 's' => return .substitute (← readSubstitution)
    | 'y' =>
      let pairs ← readPairs
      endInstruction
      return .transliterate pairs
    | 'v' =>
      discard (label : Reader (Option (List Char)))
      return .nothing
    | _ => refuse s!"unknown command: \x60{letter}'"

/-- Read instructions up to the end of the script. The fuel bounds their number. -/
def readAll : Nat → Reader Unit
  | 0 => pure ()
  | fuel + 1 => do
    discard (takeWhile fun char => isSpace char || char == ';')
    unless (← ahead).isEmpty do
      let selection ← readSelection
      skipBlanks
      let negated ← accept "!"
      skipBlanks
      if negated && (← accept "!") then refuse "multiple \x60!'s"
      let hasAddress := match selection with
        | .all => false
        | _ => true
      match ← take 1 with
      | [] => refuse "missing command"
      | ['\n'] => refuse "missing command"
      | ['#'] =>
        if hasAddress then refuse "comments don't accept any addresses"
        discard (takeWhile (· != '\n'))
      | [':'] =>
        if hasAddress then refuse ": doesn't want any addresses"
        skipBlanks
        let label ← takeWhile fun char => !isSpace char && char != ';'
        if label.isEmpty then refuse "\":\" lacks a label"
        modify fun progress =>
          { progress with
            script := { progress.script with
              labels := (label, progress.script.instructions.size) :: progress.script.labels } }
      | ['\x7b'] =>
        modify fun progress =>
          { progress with
            blocks := (progress.script.instructions.size, progress.taken - 1) :: progress.blocks }
        add ⟨selection, negated, .block 0⟩
      | ['\x7d'] =>
        if hasAddress && !(← get).blocks.isEmpty then
          refuse "\x60\x7d' doesn't want any addresses"
        closeBlock
        endInstruction
      | [letter] =>
        let isSingle := match selection with
          | .range _ _ => "=q Q".toList.contains letter && letter != '='
          | _ => false
        if isSingle then refuse "command only uses one address"
        add ⟨selection, negated, ← readAction letter⟩
      | _ => pure ()
      readAll fuel

end Reader

/-- Whether a text starts with a line that makes the editor quiet. -/
def startsQuiet (text : List Char) : Bool := text = ['#', 'n'] || "#n\n".toList.isPrefixOf text

/-- The script that a text writes. -/
def Script.read (extended : Bool) (text : List Char) : Except Fault Script := do
  let ((), progress) ← (Reader.readAll (text.length + 1)).run { rest := text, extended }
  match progress.blocks.head? with
  | some (_, place) => throw ⟨place, "unmatched \x60\x7b'".toList, true⟩
  | none => pure ()
  return { progress.script with quiet := startsQuiet text }

end Crosscheck.Utility.Editor
