import Crosscheck.Statement

/-!
# Integer literals in a statement

A literal is a maximal run of ASCII digits outside quotes that does not continue a
word. A run is recorded with the text around it, so that replacing its digits
leaves every other character as it was.
-/

namespace Crosscheck.Statement

/-- One literal and the text on both sides of it. -/
structure Literal where
  before : List Char
  digits : List Char
  after : List Char
  deriving DecidableEq, Repr

/-- Whether a digit that follows the character continues a word. -/
def isWordChar (char : Char) : Bool :=
  char.isAlphanum || char == '_'

namespace Literal

/-- The whole statement with other digits in place of the literal. -/
def replace (literal : Literal) (digits : List Char) : List Char :=
  literal.before ++ digits ++ literal.after

/-- The value of the literal. -/
def value (literal : Literal) : Nat :=
  literal.digits.foldl (fun value digit => 10 * value + (digit.toNat - '0'.toNat)) 0

end Literal

/-- The literal that starts where `passed`, latest character first, ends and `rest`
begins, if one does. -/
def literalAt? (passed : List Char) (quoting : Quoting) (rest : List Char) : Option Literal :=
  if quoting = .outside ∧ rest.head?.any Char.isDigit ∧ !passed.head?.any isWordChar then
    some ⟨passed.reverse, rest.takeWhile Char.isDigit, rest.dropWhile Char.isDigit⟩
  else none

/-- The literals of `rest` in a statement that begins with `passed`, latest character first. -/
def literalsFrom (passed : List Char) (quoting : Quoting) : List Char → List Literal
  | [] => []
  | char :: rest =>
    let further := literalsFrom (char :: passed) (quoting.next char) rest
    match literalAt? passed quoting (char :: rest) with
    | some literal => literal :: further
    | none => further

/-- The literals of a statement, from left to right. -/
def literals (statement : List Char) : List Literal :=
  literalsFrom [] .outside statement

end Crosscheck.Statement
