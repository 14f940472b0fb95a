import Crosscheck.Text.Blank
import Crosscheck.Text.Utf8

/-!
# Statements

An input is a sequence of statements, each ended by a semicolon. A semicolon
inside single or double quotes belongs to its statement. Splitting reads any octet
string, drops blank statements and trims the others; joining writes every statement
with its terminator, one space between two.
-/

namespace Crosscheck

/-- Where a left-to-right scan of a statement stands. -/
inductive Quoting where
  | outside
  /-- Inside a quoted part that `mark` ends. -/
  | inside (mark : Char)
  deriving DecidableEq, Repr

namespace Quoting

/-- The two characters that open a quoted part and end their own. -/
def isMark (char : Char) : Bool :=
  char == '\x27' || char == '\x22'

/-- The state after one character. -/
def next : Quoting → Char → Quoting
  | .outside, char => if isMark char then .inside char else .outside
  | .inside mark, char => if char = mark then .outside else .inside mark

/-- The state after a text. -/
def after (quoting : Quoting) (text : List Char) : Quoting :=
  text.foldl next quoting

end Quoting

namespace Statement

/-- The character that ends a statement. -/
def terminator : Char := ';'

/-- A text being cut at its terminators: the finished pieces, latest first, and the
open piece, latest character first. -/
structure Cut where
  finished : List (List Char)
  current : List Char
  quoting : Quoting

namespace Cut

/-- Nothing has been read. -/
def start : Cut := ⟨[], [], .outside⟩

/-- Read one character: a terminator outside quotes closes the open piece. -/
def next (cut : Cut) (char : Char) : Cut :=
  if cut.quoting = .outside ∧ char = terminator then
    { cut with finished := cut.current.reverse :: cut.finished, current := [] }
  else
    { cut with current := char :: cut.current, quoting := cut.quoting.next char }

/-- Every piece in order, the open one last. -/
def pieces (cut : Cut) : List (List Char) :=
  (cut.current.reverse :: cut.finished).reverse

end Cut

/-- The pieces between the terminators of a text. -/
def pieces (text : List Char) : List (List Char) :=
  (text.foldl Cut.next Cut.start).pieces

/-- The statements of a text: its trimmed pieces without the blank ones. -/
def splitText (text : List Char) : List (List Char) :=
  ((pieces text).map Text.trim).filter (fun piece => !piece.isEmpty)

/-- The statements of an input. -/
def split (input : List UInt8) : List String :=
  (splitText (Text.Utf8.decodeLossy input)).map String.ofList

/-- The text of a list of statements, each with its terminator. -/
def joinText : List (List Char) → List Char
  | [] => []
  | [statement] => statement ++ [terminator]
  | statement :: rest => statement ++ terminator :: ' ' :: joinText rest

/-- The input made of the given statements. -/
def join (statements : List String) : List UInt8 :=
  Text.Utf8.encode (joinText (statements.map String.toList))

end Statement
end Crosscheck
