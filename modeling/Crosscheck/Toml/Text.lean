import Crosscheck.Json.Document

/-!
# Characters and strings of the settings language

A basic string has escapes and a literal one has none; the long form of either may
span lines, drops a line break right after its opening, and may hold up to two of its
delimiters in a row.
-/

namespace Crosscheck.Toml

/-- A blank within a line. -/
def isBlank (char : Char) : Bool := char == ' ' || char == '\t'

/-- A text without the blanks in front. -/
def skipBlanks (text : List Char) : List Char := text.dropWhile isBlank

/-- A character that comments and strings may hold. -/
def isShown (char : Char) : Bool :=
  char == '\t' || (char.toNat ≥ 0x20 && char.toNat != 0x7F)

/-- The rest after the end of a line; a comment may stand before it, and the text may end
instead of the line. -/
def endLine? (text : List Char) : Option (List Char) :=
  let text :=
    match skipBlanks text with
    | '#' :: rest => rest.dropWhile isShown
    | rest => rest
  match text with
  | [] => some []
  | '\n' :: rest => some rest
  | '\r' :: '\n' :: rest => some rest
  | _ => none

/-- The rest after blanks, line breaks and comments. -/
def skipSpace (inComment : Bool) : List Char → Option (List Char)
  | [] => some []
  | '\n' :: rest => skipSpace false rest
  | '\r' :: '\n' :: rest => skipSpace false rest
  | char :: rest =>
    if inComment then if isShown char then skipSpace true rest else none
    else if isBlank char then skipSpace false rest
    else if char = '#' then skipSpace true rest
    else some (char :: rest)

/-- The character with a number, if there is one. -/
def charOfCode? (code : Nat) : Option Char :=
  if h : code.isValidChar then some (Char.ofNatAux code h) else none

/-- The number that hexadecimal digits write. -/
def hexCode? (digits : List Char) : Option Nat :=
  digits.foldlM (fun code digit => (Json.Document.hexValue? digit).map (code * 16 + ·)) 0

/-- The character of a one-letter escape. -/
def shortEscape? : Char → Option Char
  | 'b' => some '\x08'
  | 't' => some '\t'
  | 'n' => some '\n'
  | 'f' => some '\x0c'
  | 'r' => some '\r'
  | '\x22' => some '\x22'
  | '\\' => some '\\'
  | _ => none

/-- The character of an escape after its backslash, and how many characters write it. -/
def escape? (text : List Char) : Option (Char × Nat) :=
  match text with
  | 'u' :: rest =>
    if rest.length < 4 then none
    else (hexCode? (rest.take 4)).bind charOfCode? |>.map (·, 5)
  | 'U' :: rest =>
    if rest.length < 8 then none
    else (hexCode? (rest.take 8)).bind charOfCode? |>.map (·, 9)
  | letter :: _ => (shortEscape? letter).map (·, 1)
  | [] => none

/-- What a string being read is passing over. -/
inductive Passing where
  | nothing
  /-- Characters that belong to an escape. -/
  | escape (count : Nat)
  /-- The space after a backslash at the end of a line, and whether the line has ended. -/
  | fold (ended : Bool)
  deriving DecidableEq, Repr

/-- Whether a backslash stands at the end of its line. -/
def endsLine (text : List Char) : Bool :=
  match skipBlanks text with
  | '\n' :: _ => true
  | '\r' :: '\n' :: _ => true
  | _ => false

/-- Read a basic string after its opening, the characters read so far latest first. -/
def readBasic (long : Bool) (passing : Passing) (latest : List Char) :
    List Char → Option (String × List Char)
  | [] => none
  | char :: rest =>
    match passing with
    | .escape (count + 1) => readBasic long (.escape count) latest rest
    | .fold false =>
      if isBlank char ∨ char = '\r' then readBasic long passing latest rest
      else if char = '\n' then readBasic long (.fold true) latest rest
      else none
    | _ =>
      let skipsCarriage := char = '\r' ∧ rest.head? = some '\n' ∧ long
      if passing = .fold true ∧ (isBlank char ∨ char = '\n' ∨ skipsCarriage) then
        readBasic long passing latest rest
      else if char = '\x22' then
        if !long then some (String.ofList latest.reverse, rest)
        else
          match rest with
          | '\x22' :: '\x22' :: '\x22' :: '\x22' :: rest =>
            some (String.ofList ('\x22' :: '\x22' :: latest).reverse, rest)
          | '\x22' :: '\x22' :: '\x22' :: rest =>
            some (String.ofList ('\x22' :: latest).reverse, rest)
          | '\x22' :: '\x22' :: rest => some (String.ofList latest.reverse, rest)
          | _ => readBasic long .nothing ('\x22' :: latest) rest
      else if char = '\\' then
        if long ∧ endsLine rest then readBasic long (.fold false) latest rest
        else
          match escape? rest with
          | some (escaped, count) => readBasic long (.escape count) (escaped :: latest) rest
          | none => none
      else if long ∧ char = '\n' then readBasic long .nothing ('\n' :: latest) rest
      else if skipsCarriage then readBasic long .nothing latest rest
      else if isShown char then readBasic long .nothing (char :: latest) rest
      else none

/-- Read a literal string after its opening, the characters read so far latest first. -/
def readLiteral (long : Bool) (latest : List Char) : List Char → Option (String × List Char)
  | [] => none
  | '\x27' :: rest =>
    if !long then some (String.ofList latest.reverse, rest)
    else
      match rest with
      | '\x27' :: '\x27' :: '\x27' :: '\x27' :: rest =>
        some (String.ofList ('\x27' :: '\x27' :: latest).reverse, rest)
      | '\x27' :: '\x27' :: '\x27' :: rest => some (String.ofList ('\x27' :: latest).reverse, rest)
      | '\x27' :: '\x27' :: rest => some (String.ofList latest.reverse, rest)
      | _ => readLiteral long ('\x27' :: latest) rest
  | char :: rest =>
    if long ∧ char = '\n' then readLiteral long ('\n' :: latest) rest
    else if long ∧ char = '\r' ∧ rest.head? = some '\n' then readLiteral long latest rest
    else if isShown char then readLiteral long (char :: latest) rest
    else none

/-- A text without the line break in front. -/
def dropBreak : List Char → List Char
  | '\n' :: rest => rest
  | '\r' :: '\n' :: rest => rest
  | rest => rest

/-- Read a string of one line, if one starts here. -/
def readShort? : List Char → Option (String × List Char)
  | '\x22' :: rest => readBasic false .nothing [] rest
  | '\x27' :: rest => readLiteral false [] rest
  | _ => none

/-- Read a string of either form, if one starts here. -/
def readString? : List Char → Option (String × List Char)
  | '\x22' :: '\x22' :: '\x22' :: rest => readBasic true .nothing [] (dropBreak rest)
  | '\x27' :: '\x27' :: '\x27' :: rest => readLiteral true [] (dropBreak rest)
  | text => readShort? text

end Crosscheck.Toml
