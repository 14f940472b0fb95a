import Crosscheck.Script.Syntax

/-!
# Tokens

A script is cut into tokens, most of which are operators, words and ends of lines. Where a
token makes no sense the refusal names it, together with what was expected in its place.
-/

namespace Crosscheck.Script

/-- An operator that redirects a descriptor. -/
inductive RedirectionOperator where
  | file (mode : OpenMode) (forced : Bool)
  | duplicate
  /-- A text that stands in the script, possibly without the tabulators at the start of its
  lines. -/
  | document (stripped : Bool)
  deriving DecidableEq, Repr

/-- A token of a script. -/
inductive Token where
  | endOfText
  | newline
  | semicolon
  | ampersand
  | both
  | either
  | bar
  | opening
  | closing
  | endOfArm
  | redirection (descriptor : Nat) (operator : RedirectionOperator)
  | keyword (name : String)
  | word (parts : Word)

instance : Inhabited Token := ⟨.endOfText⟩

namespace Token

/-- The words with a meaning of their own. -/
def keywords : List String :=
  ["!", "\x7b", "\x7d", "case", "do", "done", "elif", "else", "esac", "fi", "for", "if", "in",
    "then", "until", "while"]

/-- How a text is quoted in a message. -/
def quoted (text : String) : String := "\"" ++ text ++ "\""

/-- How a token is named in a message. -/
def describe : Token → String
  | .endOfText => "end of file"
  | .newline => "newline"
  | .semicolon => quoted ";"
  | .ampersand => quoted "&"
  | .both => quoted "&&"
  | .either => quoted "||"
  | .bar => quoted "|"
  | .opening => quoted "("
  | .closing => quoted ")"
  | .endOfArm => quoted ";;"
  | .redirection .. => "redirection"
  | .keyword name => quoted name
  | .word _ => "word"

/-- Whether a token is a keyword. -/
def isKeyword (token : Token) (name : String) : Bool :=
  match token with
  | .keyword other => other == name
  | _ => false

/-- Whether a token ends a list of commands. -/
def endsList : Token → Bool
  | .endOfText => true
  | .closing => true
  | .endOfArm => true
  | .keyword name => ["do", "done", "elif", "else", "esac", "fi", "then", "\x7d"].contains name
  | _ => false

end Token

/-- Why a script makes no sense. -/
inductive SyntaxFault where
  | unexpected (token : Token) (expected : Option Token)
  | unterminatedQuote
  | missingBrace
  | missingParentheses
  | unterminatedBackquote
  | badFunctionName
  | badLoopVariable
  /-- There is no end to what is being read. -/
  | endless

/-- The wording of why a script makes no sense. -/
def SyntaxFault.message (fault : SyntaxFault) : String :=
  "Syntax error: " ++
    match fault with
    | .unexpected token none => token.describe ++ " unexpected"
    | .unexpected token (some expected) =>
      s!"{token.describe} unexpected (expecting {expected.describe})"
    | .unterminatedQuote => "Unterminated quoted string"
    | .missingBrace => "Missing '\x7d'"
    | .missingParentheses => "Missing '))'"
    | .unterminatedBackquote => "EOF in backquote substitution"
    | .badFunctionName => "Bad function name"
    | .badLoopVariable => "Bad for loop variable"
    | .endless => "out of memory"

/-- Whether more text might make sense of a script. -/
def SyntaxFault.isAtEnd : SyntaxFault → Bool
  | .unexpected .endOfText _ => true
  | .unterminatedQuote => true
  | .missingBrace => true
  | .missingParentheses => true
  | .unterminatedBackquote => true
  | _ => false

end Crosscheck.Script
