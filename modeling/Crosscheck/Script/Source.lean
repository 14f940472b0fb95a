import Crosscheck.Script.Token

/-!
# Texts being read

A reader takes characters from the front of a text and keeps count of its lines. The last
token may be given back, and texts that stand below the current line are read as soon as
that line ends.
-/

namespace Crosscheck.Script

/-- A text in the script that is expected below the current line. -/
structure Awaited where
  number : Nat
  delimiter : List Char
  stripped : Bool
  /-- Whether the text stands for itself. -/
  quoted : Bool
  deriving DecidableEq, Repr

/-- An alias that is being replaced. -/
structure Replaced where
  name : String
  /-- The length of the text after it. -/
  after : Nat
  /-- Whether the next word may be an alias as well. -/
  goesOn : Bool
  deriving DecidableEq, Repr

/-- A text that is being read. -/
structure Source where
  rest : List Char
  line : Nat := 1
  last : Token := .endOfText
  /-- The last token that was a word. -/
  lastWord : Word := []
  /-- Whether the last token is read again. -/
  isGivenBack : Bool := false
  awaited : List Awaited := []
  /-- The texts that stand in scripts, by number. -/
  documents : Array Word := #[]
  aliases : List (String × List Char) := []
  /-- The aliases that are being replaced. -/
  replaced : List Replaced := []

/-- Whether the end of the text has been met. -/
def Source.isAtEnd (source : Source) : Bool :=
  source.isGivenBack && match source.last with
    | .endOfText => true
    | _ => false

/-- Where and why a script makes no sense. -/
structure Misreading where
  fault : SyntaxFault
  line : Nat

/-- Reads something from the front of a text. -/
abbrev Reader := StateT Source (Except Misreading)

namespace Reader

/-- Refuse the text. -/
def refuse {α : Type} (fault : SyntaxFault) : Reader α := do
  throw ⟨fault, (← get).line⟩

/-- Refuse the last token. -/
def refuseToken {α : Type} (expected : Option Token := none) : Reader α := do
  refuse (.unexpected (← get).last expected)

/-- The text ahead. -/
def ahead : Reader (List Char) := return (← get).rest

/-- The character ahead. -/
def peek : Reader (Option Char) := return (← get).rest.head?

/-- Take a number of characters. -/
def take (count : Nat) : Reader (List Char) := do
  let source ← get
  let taken := source.rest.take count
  set { source with
    rest := source.rest.drop count
    line := source.line + taken.count '\n' : Source }
  return taken

/-- Take the characters up to the first that fails a test. -/
def takeWhile (test : Char → Bool) : Reader (List Char) := do
  take ((← ahead).takeWhile test).length

/-- Take a text if it stands ahead. -/
def accept (text : String) : Reader Bool := do
  if text.toList.isPrefixOf (← ahead) then
    discard (take text.length)
    return true
  return false

/-- Take the continued ends of lines ahead. The fuel bounds their number. -/
def joinLinesWithin : Nat → Reader Unit
  | 0 => pure ()
  | fuel + 1 => do if ← accept "\\\n" then joinLinesWithin fuel

/-- Take the continued ends of lines ahead. -/
def joinLines : Reader Unit := do
  if "\\\n".toList.isPrefixOf (← ahead) then joinLinesWithin ((← ahead).length + 1)

/-- Take an operator of several characters, between which lines may be continued. -/
def acceptAll : List Char → Reader Bool
  | [] => return true
  | char :: rest => do
    let source ← get
    joinLines
    if (← peek) == some char then
      discard (take 1)
      if ← acceptAll rest then return true
    set source
    return false

/-- Take an operator if it stands ahead. -/
def acceptOperator (text : String) : Reader Bool := acceptAll text.toList

/-- Whether a character ends a word. -/
def endsWord (char : Char) : Bool := " \t\n;&|<>()".toList.contains char

/-- Whether a name may start with a character. -/
def startsName (char : Char) : Bool := char.isAlpha || char == '_'

/-- Whether a character may stand in a name. -/
def isNameChar (char : Char) : Bool := char.isAlphanum || char == '_'

/-- Whether a text is a name. -/
def isName (text : List Char) : Bool := text.head?.any startsName && text.all isNameChar

/-- Whether a character is a parameter by itself. -/
def isSpecial (char : Char) : Bool := char.isDigit || "@*#?-$!".toList.contains char

/-- Take the blanks ahead, with comments and continued lines. The fuel bounds their
number. -/
def skipBlanksWithin : Nat → Reader Unit
  | 0 => pure ()
  | fuel + 1 => do
    discard (takeWhile fun char => char == ' ' || char == '\t')
    if (← peek) == some '#' then discard (takeWhile (· != '\n'))
    if ← accept "\\\n" then skipBlanksWithin fuel

/-- Take the blanks ahead, with comments and continued lines. -/
def skipBlanks : Reader Unit := do skipBlanksWithin ((← ahead).length + 1)

/-- Have the last token read again. -/
def giveBack : Reader Unit := modify fun source => { source with isGivenBack := true }

/-! ## Texts in scripts -/

/-- Whether a line is continued on the next one: its last backslash is not protected by
another. -/
def isContinued (line : List Char) : Bool :=
  (line.reverse.takeWhile (· == '\\')).length % 2 == 1

/-- The lines of a text up to that which ends it, and what follows. A line that continues
another one neither ends the text nor loses its tabulators. The fuel bounds the number of
lines. -/
def documentLines (awaited : Awaited) : Nat → Bool → List Char → List Char × List Char
  | 0, _, text => ([], text)
  | _, _, [] => ([], [])
  | fuel + 1, continued, text =>
    let line := text.takeWhile (· != '\n')
    let rest := text.drop line.length
    let line := if awaited.stripped && !continued then line.dropWhile (· == '\t') else line
    if line = awaited.delimiter ∧ !continued then ([], rest.drop 1)
    else
      let continues := !awaited.quoted && isContinued line
      let (more, after) := documentLines awaited fuel continues (rest.drop 1)
      (line ++ rest.take 1 ++ more, after)

end Reader
end Crosscheck.Script
