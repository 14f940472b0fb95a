import Crosscheck.Script.Source

/-!
# Reading scripts

A script is read one line of commands after another, so that the lines before a mistake
still run. What is read depends on where it stands: whether the ends of lines matter, and
whether words are keywords or aliases.
-/

namespace Crosscheck.Script

/-- Where a part of a word stands. -/
structure Context where
  quoted : Bool
  /-- Whether a closing brace ends the text. -/
  braced : Bool := false
  /-- Whether the text stands below the commands and has no quotes. -/
  document : Bool := false

/-- Whether a character ends a text. -/
def Context.ends (context : Context) (char : Char) : Bool :=
  if context.braced then char == '\x7d'
  else if context.document then false
  else if context.quoted then char == '"'
  else Reader.endsWord char

/-- Whether a backslash protects a character. Where it does not, it stands for itself. -/
def Context.protects (context : Context) (char : Char) : Bool :=
  !context.quoted || "$\x60\\".toList.contains char || (char == '"' && !context.document) ||
    (char == '\x7d' && context.braced)

/-- What is looked for in place of a plain token. -/
structure Expected where
  /-- Whether the ends of lines are passed over. -/
  newlines : Bool := false
  keywords : Bool := false
  aliases : Bool := false

/-- What is looked for where a command may begin on a later line. -/
def Expected.command : Expected := ⟨true, true, true⟩

namespace Reader

/-- The commands that functions cannot stand for. -/
def specialNames : List String :=
  [":", ".", "break", "continue", "eval", "exec", "exit", "export", "local", "readonly", "return",
    "set", "shift", "times", "trap", "unset"]

/-- A character that stands for itself. -/
def literal (char : Char) (quoted : Bool) : Part := .text [char] quoted

/-- Join what stands side by side in the same way. -/
def joinText (first : Part) (rest : List Part) : List Part :=
  match first, rest with
  | .text left true, .text right true :: others => .text (left ++ right) true :: others
  | .text left false, .text right false :: others => .text (left ++ right) false :: others
  | _, _ => first :: rest

/-- What stands between quotes is a field even if there is nothing in it, unless it is all
arguments and nothing else. -/
def betweenQuotes (parts : List Part) : List Part :=
  let isArguments : Part → Bool
    | .parameter "@" .. => true
    | _ => false
  match parts with
  | [] => [.text [] true]
  | [.parameter "@" .value _] => parts
  | _ => if parts.any isArguments then .text [] true :: parts else parts

/-- The text of a word in which nothing is quoted or replaced. -/
def plainText? : Word → Option (List Char)
  | [.text text false] => some text
  | _ => none

/-- The assignment that a word spells: a name, an equals sign and a value. -/
def assignment? : Word → Option (String × Word)
  | .text text false :: rest =>
    let name := text.takeWhile isNameChar
    match text.drop name.length with
    | '=' :: value =>
      if isName name then
        some (String.ofList name, if value.isEmpty then rest else .text value false :: rest)
      else none
    | _ => none
  | _ => none

/-- The text of a command between backquotes, where a backslash protects the characters
that would be read otherwise, with the number of characters up to its end. -/
def backquoted? (quoted : Bool) : List Char → Option (List Char × Nat)
  | [] => none
  | '\x60' :: _ => some ([], 1)
  | '\\' :: '\n' :: rest => (backquoted? quoted rest).map fun (text, count) => (text, count + 2)
  | '\\' :: char :: rest =>
    let isProtected := "\\\x60$".toList.contains char || (quoted && char == '"')
    (backquoted? quoted rest).map fun (text, count) =>
      (if isProtected then char :: text else '\\' :: char :: text, count + 2)
  | char :: rest => (backquoted? quoted rest).map fun (text, count) => (char :: text, count + 1)

/-- Whether an alias after which another one may stand has ended since the text was at some
place. -/
def endsReplaced (before : Source) : Reader Bool := do
  let source ← get
  return source.replaced.any fun replaced =>
    replaced.goesOn && replaced.after < before.rest.length &&
      source.rest.length ≤ replaced.after

/-- The operator of a redirection, which is taken with the descriptor before it. -/
def redirectionToken : Reader (Option Token) := do
  let source ← get
  let digit := source.rest.head?.filter Char.isDigit
  if digit.isSome then discard (take 1)
  let reads (descriptor : Nat) (operator : RedirectionOperator) : Reader (Option Token) :=
    return some (.redirection ((digit.map fun digit => digit.toNat - 48).getD descriptor) operator)
  if ← acceptOperator "<<-" then reads 0 (.document true)
  else if ← acceptOperator "<<" then reads 0 (.document false)
  else if ← acceptOperator "<&" then reads 0 .duplicate
  else if ← acceptOperator "<>" then reads 0 (.file .update false)
  else if ← acceptOperator "<" then reads 0 (.file .read false)
  else if ← acceptOperator ">>" then reads 1 (.file .append false)
  else if ← acceptOperator ">|" then reads 1 (.file .write true)
  else if ← acceptOperator ">&" then reads 1 .duplicate
  else if ← acceptOperator ">" then reads 1 (.file .write false)
  else
    set source
    return none

/-- The word that ends a text in the script, and whether any of it is quoted. The fuel
bounds the number of its characters. -/
def readDelimiter : Nat → Reader (List Char × Bool)
  | 0 => refuse .endless
  | fuel + 1 => do
    match ← ahead with
    | [] => return ([], false)
    | char :: _ =>
      if endsWord char then return ([], false)
      discard (take 1)
      let text ←
        match char with
        | '\\' => take 1
        | '\x27' => quotedUpTo '\x27'
        | '"' => quotedUpTo '"'
        | _ => pure [char]
      let (rest, quoted) ← readDelimiter fuel
      return (text ++ rest, quoted || "\\'\"".toList.contains char)
where
  quotedUpTo (quote : Char) : Reader (List Char) := do
    let text ← takeWhile (· != quote)
    if (← ahead).isEmpty then refuse .unterminatedQuote
    discard (take 1)
    return text

mutual

/-- Read the parts of a text up to its end. -/
def readParts : Nat → Context → Reader (List Part)
  | 0, _ => refuse .endless
  | fuel + 1, context => do
    match ← ahead with
    | [] =>
      if context.document then return []
      else if context.quoted then refuse .unterminatedQuote
      else if context.braced then refuse .missingBrace
      else return []
    | char :: rest =>
      if context.ends char then return []
      match char with
      | '\\' =>
        match rest with
        | [] =>
          discard (take 1)
          return [literal '\\' true]
        | '\n' :: _ =>
          discard (take 2)
          readParts fuel context
        | next :: _ =>
          discard (take 2)
          let text := if context.protects next then [next] else ['\\', next]
          return joinText (.text text true) (← readParts fuel context)
      | '$' =>
        discard (take 1)
        let part ← readDollar fuel context.quoted
        return joinText part (← readParts fuel context)
      | '\x60' =>
        let part ← readBackquoted fuel context.quoted
        return part :: (← readParts fuel context)
      | '"' =>
        discard (take 1)
        if context.document then
          return joinText (literal char true) (← readParts fuel context)
        let inner ← readParts fuel { quoted := true }
        discard (take 1)
        return betweenQuotes inner ++ (← readParts fuel context)
      | '\x27' =>
        discard (take 1)
        if context.quoted then
          return joinText (literal char true) (← readParts fuel context)
        let text ← takeWhile (· != '\x27')
        if (← ahead).isEmpty then refuse .unterminatedQuote
        discard (take 1)
        return .text text true :: (← readParts fuel context)
      | _ =>
        let text ← takeWhile fun char =>
          !context.ends char && !("\\$\x60\"'".toList.contains char)
        return joinText (.text text context.quoted) (← readParts fuel context)

/-- Read a command between backquotes. -/
def readBackquoted : Nat → Bool → Reader Part
  | 0, _ => refuse .endless
  | fuel + 1, quoted => do
    discard (take 1)
    match backquoted? quoted (← ahead) with
    | none =>
      discard (takeWhile fun _ => true)
      refuse .unterminatedBackquote
    | some (body, count) =>
      let start ← get
      discard (take count)
      let after ← get
      set { start with rest := body, awaited := [], replaced := [] }
      let command ← readCommands fuel false true none
      set { after with documents := (← get).documents }
      return .output (command.getD .nothing) quoted

/-- Read what follows a dollar sign. -/
def readDollar : Nat → Bool → Reader Part
  | 0, _ => refuse .endless
  | fuel + 1, quoted => do
    joinLines
    match ← peek with
    | some '(' =>
      discard (take 1)
      joinLines
      if ← accept "(" then return .arithmetic (← readArithmetic fuel 0) quoted
      let awaited := (← get).awaited
      modify fun source => { source with awaited := [] }
      let command ← readCommands fuel false true none
      match ← readToken fuel {} with
      | .closing => pure ()
      | _ => refuseToken (some .closing)
      readDocuments fuel
      modify fun source => { source with awaited }
      return .output (command.getD .nothing) quoted
    | some '\x7b' =>
      discard (take 1)
      joinLines
      readBraced fuel quoted
    | some char =>
      if startsName char then
        return .parameter (String.ofList (← takeWhile isNameChar)) .value quoted
      else if isSpecial char then return .parameter (String.ofList (← take 1)) .value quoted
      else return literal '$' quoted
    | none => return literal '$' quoted

/-- Read a parameter in braces. -/
def readBraced : Nat → Bool → Reader Part
  | 0, _ => refuse .endless
  | fuel + 1, quoted => do
    let text ← ahead
    match text with
    | '#' :: '\x7d' :: _ => readOperation fuel (String.ofList (← take 1)) quoted
    | '#' :: char :: after :: _ =>
      if char.isAlphanum || char == '_' then
        discard (take 1)
        let name ← if char.isDigit then take 1 else takeWhile isNameChar
        readLength fuel (String.ofList name) quoted
      else if char != '\x7d' && after == '\x7d' then
        discard (take 1)
        readLength fuel (String.ofList (← take 1)) quoted
      else readOperation fuel (String.ofList (← take 1)) quoted
    | char :: _ =>
      if startsName char then
        readOperation fuel (String.ofList (← takeWhile isNameChar)) quoted
      else if char.isDigit then
        readOperation fuel (String.ofList (← takeWhile Char.isDigit)) quoted
      else if isSpecial char then readOperation fuel (String.ofList (← take 1)) quoted
      else readUnknown fuel quoted
    | [] => refuse .missingBrace

/-- Read the closing brace after a parameter whose length is asked for. -/
def readLength : Nat → String → Bool → Reader Part
  | 0, _, _ => refuse .endless
  | fuel + 1, name, quoted => do
    let known := isName name.toList || name.toList.all isSpecial
    if known && (← accept "\x7d") then return .parameter name .length quoted
    else readUnknown fuel quoted

/-- Read up to the closing brace what has no meaning. -/
def readUnknown : Nat → Bool → Reader Part
  | 0, _ => refuse .endless
  | fuel + 1, quoted => do
    discard (readParts fuel { quoted, braced := true })
    discard (take 1)
    return .parameter "" .unknown quoted

/-- Read what is done with the value of a parameter in braces. Quotes are read anew in a
pattern. -/
def readOperation : Nat → String → Bool → Reader Part
  | 0, _, _ => refuse .endless
  | fuel + 1, name, quoted => do
    joinLines
    let orEmpty ← accept ":"
    let word (quoted : Bool) : Reader (List Part) := do
      let word ← readParts fuel { quoted, braced := true }
      discard (take 1)
      return word
    let source ← get
    match source.rest.head? with
    | none => refuse .missingBrace
    | some char =>
      discard (take 1)
      match char with
      | '-' => return .parameter name (.default orEmpty (← word quoted)) quoted
      | '=' => return .parameter name (.assign orEmpty (← word quoted)) quoted
      | '+' => return .parameter name (.alternative orEmpty (← word quoted)) quoted
      | '?' => return .parameter name (.demand orEmpty (← word quoted)) quoted
      | '\x7d' => if orEmpty then readUnknown fuel quoted else return .parameter name .value quoted
      | _ =>
        if orEmpty || !(char == '#' || char == '%') then
          set source
          readUnknown fuel quoted
        else
          let longest ← accept (String.singleton char)
          return .parameter name (.trim (char == '%') longest (← word false)) quoted

/-- Read an arithmetic expression up to its closing parentheses, given how many others
are open. -/
def readArithmetic : Nat → Nat → Reader (List Part)
  | 0, _ => refuse .endless
  | fuel + 1, depth => do
    match (← ahead) with
    | [] => refuse .missingParentheses
    | char :: rest =>
      match char with
      | '(' =>
        discard (take 1)
        return joinText (literal '(' true) (← readArithmetic fuel (depth + 1))
      | ')' =>
        discard (take 1)
        match depth with
        | depth + 1 => return joinText (literal ')' true) (← readArithmetic fuel depth)
        | 0 =>
          if ← acceptOperator ")" then return []
          return joinText (literal ')' true) (← readArithmetic fuel 0)
      | '\\' =>
        match rest with
        | '\n' :: _ =>
          discard (take 2)
          readArithmetic fuel depth
        | next :: _ =>
          discard (take 2)
          let text := if "$\x60\\\"".toList.contains next then [next] else ['\\', next]
          return joinText (.text text true) (← readArithmetic fuel depth)
        | [] => refuse .missingParentheses
      | '$' =>
        discard (take 1)
        let part ← readDollar fuel true
        return joinText part (← readArithmetic fuel depth)
      | '\x60' =>
        let part ← readBackquoted fuel true
        return part :: (← readArithmetic fuel depth)
      | _ =>
        let text ← takeWhile fun char => !("()\\$\x60".toList.contains char)
        return joinText (.text text true) (← readArithmetic fuel depth)

/-- Read the texts that stand below the line that has just ended. -/
def readDocuments : Nat → Reader Unit
  | 0 => refuse .endless
  | fuel + 1 => do
    let source ← get
    match source.awaited with
    | [] => pure ()
    | awaited :: others =>
      let (body, after) := documentLines awaited (source.rest.length + 1) false source.rest
      let parts ←
        if awaited.quoted then pure [Part.text body true]
        else
          set { source with rest := body, awaited := [], replaced := [] }
          readParts fuel { quoted := true, document := true }
      let count := source.rest.length - after.length
      set { source with
        rest := after
        line := source.line + (source.rest.take count).count '\n'
        awaited := others
        documents := (← get).documents.setIfInBounds awaited.number parts }
      readDocuments fuel

/-- Read the token ahead as it stands. -/
def readPlainToken : Nat → Reader Token
  | 0 => refuse .endless
  | fuel + 1 => do
    skipBlanks
    match ← peek with
    | none => return .endOfText
    | some '\n' =>
      discard (take 1)
      readDocuments fuel
      return .newline
    | some '&' => if ← acceptOperator "&&" then return .both else oneCharacter .ampersand
    | some '|' => if ← acceptOperator "||" then return .either else oneCharacter .bar
    | some ';' => if ← acceptOperator ";;" then return .endOfArm else oneCharacter .semicolon
    | some '(' => oneCharacter .opening
    | some ')' => oneCharacter .closing
    | some _ =>
      match ← redirectionToken with
      | some token => return token
      | none =>
        let word ← readParts fuel { quoted := false }
        modify fun source => { source with lastWord := word }
        return .word word
where
  oneCharacter (token : Token) : Reader Token := do
    discard (take 1)
    return token

/-- Read a token, or the last one again. -/
def readToken : Nat → Expected → Reader Token
  | 0, _ => refuse .endless
  | fuel + 1, expected => do
    let source ← get
    unless source.isGivenBack do skipBlanks
    let goesOn := !source.isGivenBack && (← endsReplaced source)
    let token ← if source.isGivenBack then pure source.last else readPlainToken fuel
    modify fun source => { source with last := token, isGivenBack := false }
    match token with
    | .newline => if expected.newlines then readToken fuel expected else return token
    | .word parts =>
      match plainText? parts with
      | none => return token
      | some text =>
        let name := String.ofList text
        if expected.keywords && Token.keywords.contains name then
          modify fun source => { source with last := .keyword name }
          return .keyword name
        if !expected.aliases && !goesOn then return token
        let source ← get
        let length := source.rest.length
        let replaced := source.replaced.filter fun replaced => replaced.after < length
        match source.aliases.lookup name with
        | none => return token
        | some value =>
          if replaced.any fun replaced => replaced.name = name then return token
          let goesOn := value.getLast?.any fun char => char == ' ' || char == '\t'
          set { source with
            rest := value ++ source.rest
            replaced := ⟨name, length, goesOn⟩ :: replaced }
          readToken fuel { expected with aliases := true }
    | _ => return token

/-- Read the target of a redirection. -/
def readTarget : Nat → Nat → RedirectionOperator → Reader Redirection
  | 0, _, _ => refuse .endless
  | fuel + 1, descriptor, operator => do
    match operator with
    | .document stripped =>
      skipBlanks
      if (← peek).all endsWord then
        discard (readToken fuel {})
        refuseToken
      let (delimiter, quoted) ← readDelimiter ((← ahead).length + 1)
      let number := (← get).documents.size
      modify fun source => { source with
        documents := source.documents.push []
        awaited := source.awaited ++ [⟨number, delimiter, stripped, quoted⟩] }
      return .document descriptor number
    | .duplicate => return .duplicate descriptor (← readTargetWord fuel)
    | .file mode forced => return .file descriptor mode forced (← readTargetWord fuel)

/-- Read a word that has to follow. -/
def readTargetWord : Nat → Reader Word
  | 0 => refuse .endless
  | fuel + 1 => do
    match ← readToken fuel {} with
    | .word parts => return parts
    | _ => refuseToken

/-- Read the rest of a simple command, given what stands before. -/
def readSimple : Nat → Nat → List (String × Word) → List Word → List Redirection → Reader Command
  | 0, _, _, _, _ => refuse .endless
  | fuel + 1, line, assignments, words, redirections => do
    match ← readToken fuel { aliases := words.isEmpty } with
    | .word parts =>
      match if words.isEmpty then assignment? parts else none with
      | some assignment => readSimple fuel line (assignments ++ [assignment]) words redirections
      | none => readSimple fuel line assignments (words ++ [parts]) redirections
    | .redirection descriptor operator =>
      let redirection ← readTarget fuel descriptor operator
      readSimple fuel line assignments words (redirections ++ [redirection])
    | .opening =>
      match words with
      | [word] =>
        if assignments.isEmpty && redirections.isEmpty then
          match ← readToken fuel {} with
          | .closing => pure ()
          | _ => refuseToken (some .closing)
          let name := (plainText? word).getD []
          if !isName name || specialNames.contains (String.ofList name) then
            refuse .badFunctionName
          return .define (String.ofList name) (← readCommand fuel .command)
        giveBack
        return .simple line assignments words redirections
      | _ =>
        giveBack
        return .simple line assignments words redirections
    | _ =>
      giveBack
      return .simple line assignments words redirections

/-- Read words up to another token, which is taken. -/
def readWords : Nat → Reader (List Word)
  | 0 => refuse .endless
  | fuel + 1 => do
    match ← readToken fuel {} with
    | .word parts => return parts :: (← readWords fuel)
    | _ => return []

/-- Take a keyword that has to stand ahead. -/
def expectKeyword : Nat → String → Expected → Reader Unit
  | 0, _, _ => refuse .endless
  | fuel + 1, name, expected => do
    unless (← readToken fuel expected).isKeyword name do refuseToken (some (.keyword name))

/-- Read what follows the start of a branch. -/
def readBranches : Nat → Reader Command
  | 0 => refuse .endless
  | fuel + 1 => do
    let condition ← readList fuel
    expectKeyword fuel "then" {}
    let yes ← readList fuel
    let token ← readToken fuel {}
    if token.isKeyword "elif" then return .branch condition yes (← readBranches fuel)
    else if token.isKeyword "else" then
      let no ← readList fuel
      return .branch condition yes no
    else
      giveBack
      return .branch condition yes .nothing

/-- Read the patterns of an arm when the token of the first was read. Where that is no word
the word before it is the pattern. -/
def readPatterns : Nat → Reader (List Word)
  | 0 => refuse .endless
  | fuel + 1 => do
    let pattern := (← get).lastWord
    match ← readToken fuel {} with
    | .bar =>
      discard (readToken fuel {})
      return pattern :: (← readPatterns fuel)
    | .closing => return [pattern]
    | _ => refuseToken (some .closing)

/-- Read the arms of a choice. -/
def readArms : Nat → Reader (List (List Word × Command))
  | 0 => refuse .endless
  | fuel + 1 => do
    let token ← readToken fuel { newlines := true, keywords := true }
    if token.isKeyword "esac" then return []
    match token with
    | .opening => discard (readToken fuel {})
    | _ => pure ()
    let patterns ← readPatterns fuel
    let body ← readCommands fuel false true none
    let arm := (patterns, body.getD .nothing)
    let token ← readToken fuel { newlines := true, keywords := true }
    if token.isKeyword "esac" then return [arm]
    match token with
    | .endOfArm => return arm :: (← readArms fuel)
    | _ => refuseToken (some .endOfArm)

/-- Read a loop over words. -/
def readEach : Nat → Nat → Reader Command
  | 0, _ => refuse .endless
  | fuel + 1, line => do
    match ← readToken fuel {} with
    | .word parts =>
      let name := (plainText? parts).getD []
      unless isName name do refuse .badLoopVariable
      let token ← readToken fuel .command
      let words ←
        if token.isKeyword "in" then
          let words ← readWords fuel
          match (← get).last with
          | .newline => pure ()
          | .semicolon => pure ()
          | _ => refuseToken
          pure words
        else
          match token with
          | .semicolon => pure ()
          | _ => giveBack
          pure [[.parameter "@" .value true]]
      expectKeyword fuel "do" .command
      return .each line (String.ofList name) words (← readList fuel)
    | _ => refuse .badLoopVariable

/-- Read the redirections after a command. -/
def readRedirections : Nat → Reader (List Redirection)
  | 0 => refuse .endless
  | fuel + 1 => do
    match ← readToken fuel { keywords := true, aliases := true } with
    | .redirection descriptor operator =>
      let redirection ← readTarget fuel descriptor operator
      return redirection :: (← readRedirections fuel)
    | _ =>
      giveBack
      return []

/-- Read a command. -/
def readCommand : Nat → Expected → Reader Command
  | 0, _ => refuse .endless
  | fuel + 1, expected => do
    let line := (← get).line
    let redirected (command : Command) : Reader Command := do
      let redirections ← readRedirections fuel
      return if redirections.isEmpty then command else .redirected line command redirections
    match ← readToken fuel expected with
    | .word _ =>
      giveBack
      readSimple fuel (← get).line [] [] []
    | .redirection .. =>
      giveBack
      readSimple fuel (← get).line [] [] []
    | .opening =>
      let body ← readList fuel
      match ← readToken fuel {} with
      | .closing => return .apart line body (← readRedirections fuel)
      | _ => refuseToken (some .closing)
    | .keyword "if" =>
      let command ← readBranches fuel
      expectKeyword fuel "fi" {}
      redirected command
    | .keyword "while" =>
      let condition ← readList fuel
      expectKeyword fuel "do" {}
      let body ← readList fuel
      expectKeyword fuel "done" {}
      redirected (.loop false condition body)
    | .keyword "until" =>
      let condition ← readList fuel
      expectKeyword fuel "do" {}
      let body ← readList fuel
      expectKeyword fuel "done" {}
      redirected (.loop true condition body)
    | .keyword "for" =>
      let command ← readEach fuel line
      expectKeyword fuel "done" {}
      redirected command
    | .keyword "case" =>
      match ← readToken fuel {} with
      | .word subject =>
        expectKeyword fuel "in" .command
        redirected (.choice line subject (← readArms fuel))
      | _ => refuseToken (some (.word []))
    | .keyword "\x7b" =>
      let body ← readList fuel
      expectKeyword fuel "\x7d" {}
      redirected body
    | _ => refuseToken

/-- Read the commands of a pipeline after a bar. -/
def readStages : Nat → Reader (List Command)
  | 0 => refuse .endless
  | fuel + 1 => do
    let command ← readCommand fuel .command
    match ← readToken fuel {} with
    | .bar => return command :: (← readStages fuel)
    | _ =>
      giveBack
      return [command]

/-- Read a pipeline. -/
def readPipeline : Nat → Expected → Reader Command
  | 0, _ => refuse .endless
  | fuel + 1, expected => do
    let negated := (← readToken fuel expected).isKeyword "!"
    unless negated do giveBack
    let first ← readCommand fuel { keywords := negated, aliases := negated }
    let command ←
      match ← readToken fuel {} with
      | .bar => pure (.pipeline (first :: (← readStages fuel)))
      | _ =>
        giveBack
        pure first
    return if negated then .negate command else command

/-- Read the pipelines that are joined to one before by conditions. -/
def readConditions : Nat → Command → Reader Command
  | 0, _ => refuse .endless
  | fuel + 1, first => do
    match ← readToken fuel {} with
    | .both => readConditions fuel (.both first (← readPipeline fuel .command))
    | .either => readConditions fuel (.either first (← readPipeline fuel .command))
    | _ =>
      giveBack
      return first

/-- Read commands after those before them: those of a line, or else all up to what closes
them, which may stand where a command could. -/
def readCommands : Nat → Bool → Bool → Option Command → Reader (Option Command)
  | 0, _, _, _ => refuse .endless
  | fuel + 1, oneLine, mayEnd, before => do
    let token ← readToken fuel ⟨!oneLine, true, true⟩
    match token with
    | .newline => return before
    | .endOfText =>
      giveBack
      return before
    | _ =>
      giveBack
      if mayEnd && token.endsList then return before
      let command ← readConditions fuel (← readPipeline fuel {})
      let token ← readToken fuel {}
      let join (command : Command) : Command :=
        match before with
        | none => command
        | some before => .sequence before command
      match token with
      | .ampersand => readCommands fuel oneLine (!oneLine) (some (join (.background command)))
      | .semicolon => readCommands fuel oneLine (!oneLine) (some (join command))
      | .newline =>
        giveBack
        readCommands fuel oneLine (!oneLine) (some (join command))
      | .endOfText =>
        giveBack
        return some (join command)
      | _ =>
        if oneLine then refuseToken
        giveBack
        return some (join command)

/-- Read the commands up to what closes them, of which there is at least one. -/
def readList : Nat → Reader Command
  | 0 => refuse .endless
  | fuel + 1 => return (← readCommands fuel false false none).getD .nothing

end

/-- Read a line of commands; `none` at the end of the text. -/
def readLine : Reader (Option Command) := do
  modify fun source => { source with isGivenBack := false, awaited := [] }
  let source ← get
  match ← readCommands (40 * (source.rest.length + 10)) true false none with
  | some command => return some command
  | none => return if (← get).isAtEnd then none else some .nothing

end Reader
end Crosscheck.Script
