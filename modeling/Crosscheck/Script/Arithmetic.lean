import Crosscheck.Script.Format

/-!
# Arithmetic

The expressions of arithmetic expansion, on integers of 64 bits that wrap around. An
expression is evaluated while it is read, so that of two faults the one further to the left
is found. The side of a condition that is not chosen is read only, without effects.
-/

namespace Crosscheck.Script.Arithmetic

/-- An operation on two integers, both of which are needed. -/
inductive Operation where
  | add
  | subtract
  | multiply
  | divide
  | remainder
  | shiftLeft
  | shiftRight
  | less
  | atMost
  | greater
  | atLeast
  | equal
  | unequal
  | bitAnd
  | bitXor
  | bitOr
  deriving DecidableEq, Repr

/-- What an expression is written with. -/
inductive Token where
  | number (value : Int)
  | parameter (name : String)
  | operation (operation : Operation)
  /-- An assignment, with the operation that is carried out before. -/
  | assign (operation : Option Operation)
  | both
  | either
  | isZero
  | complement
  | choice
  | otherwise
  | opening
  | closing
  /-- A character that is of no use in an expression. -/
  | stray (char : Char)
  deriving DecidableEq, Repr

/-- Why an expression has no value. -/
inductive Fault where
  | expectingPrimary
  | expectingParenthesis
  | expectingColon
  | expectingEnd
  | divisionByZero
  /-- The quotient has more than 64 bits. -/
  | quotientTooLarge
  /-- A parameter holds no number. -/
  | noNumber (text : List Char)
  deriving DecidableEq, Repr

/-- The wording of why an expression has no value. -/
def Fault.message (expression : List Char) : Fault → List Char
  | .expectingPrimary => about "expecting primary"
  | .expectingParenthesis => about "expecting ')'"
  | .expectingColon => about "expecting ':'"
  | .expectingEnd => about "expecting EOF"
  | .divisionByZero => about "division by zero"
  | .quotientTooLarge => about "division out of range"
  | .noNumber text => "Illegal number: ".toList ++ text
where
  about (cause : String) : List Char :=
    ("arithmetic expression: " ++ cause ++ ": \"").toList ++ expression ++ ['\x22']

/-! ## Integers -/

/-- The greatest integer. -/
def maxInteger : Nat := UInt64.size / 2 - 1

/-- An integer within 64 bits. -/
def wrap (value : Int) : Int := value.bmod UInt64.size

/-- The integer of a truth value. -/
def truth (holds : Bool) : Int := if holds then 1 else 0

/-- Carry out an operation bit by bit. -/
def bitwise (operation : UInt64 → UInt64 → UInt64) (left right : Int) : Int :=
  wrap (operation (UInt64.ofInt left) (UInt64.ofInt right)).toNat

namespace Operation

/-- Carry out a division. -/
def divideBy (divide : Int → Int → Int) (left right : Int) : Except Fault Int :=
  if right = 0 then .error .divisionByZero
  else if right = -1 ∧ left < -maxInteger then .error .quotientTooLarge
  else .ok (divide left right)

/-- Carry out an operation. -/
def apply (operation : Operation) (left right : Int) : Except Fault Int :=
  let amount := (right % 64).toNat
  match operation with
  | .add => .ok (wrap (left + right))
  | .subtract => .ok (wrap (left - right))
  | .multiply => .ok (wrap (left * right))
  | .divide => divideBy Int.tdiv left right
  | .remainder => divideBy Int.tmod left right
  | .shiftLeft => .ok (wrap (left * Nat.pow 2 amount))
  | .shiftRight => .ok (left.fdiv (Nat.pow 2 amount))
  | .less => .ok (truth (left < right))
  | .atMost => .ok (truth (left ≤ right))
  | .greater => .ok (truth (right < left))
  | .atLeast => .ok (truth (right ≤ left))
  | .equal => .ok (truth (left = right))
  | .unequal => .ok (truth (left ≠ right))
  | .bitAnd => .ok (bitwise (· &&& ·) left right)
  | .bitXor => .ok (bitwise (· ^^^ ·) left right)
  | .bitOr => .ok (bitwise (· ||| ·) left right)

/-- How closely an operation binds its operands. -/
def precedence : Operation → Nat
  | .bitOr => 1
  | .bitXor => 2
  | .bitAnd => 3
  | .equal => 4
  | .unequal => 4
  | .less => 5
  | .atMost => 5
  | .greater => 5
  | .atLeast => 5
  | .shiftLeft => 6
  | .shiftRight => 6
  | .add => 7
  | .subtract => 7
  | .multiply => 8
  | .divide => 8
  | .remainder => 8

end Operation

/-! ## Tokens -/

/-- How tokens are spelled, those first that others start with. -/
def spellings : List (List Char × Token) := [
  ("<<=".toList, .assign (some .shiftLeft)), (">>=".toList, .assign (some .shiftRight)),
  ("+=".toList, .assign (some .add)), ("-=".toList, .assign (some .subtract)),
  ("*=".toList, .assign (some .multiply)), ("/=".toList, .assign (some .divide)),
  ("%=".toList, .assign (some .remainder)), ("&=".toList, .assign (some .bitAnd)),
  ("^=".toList, .assign (some .bitXor)), ("|=".toList, .assign (some .bitOr)),
  ("||".toList, .either), ("&&".toList, .both),
  ("==".toList, .operation .equal), ("!=".toList, .operation .unequal),
  ("<=".toList, .operation .atMost), (">=".toList, .operation .atLeast),
  ("<<".toList, .operation .shiftLeft), (">>".toList, .operation .shiftRight),
  (['<'], .operation .less), (['>'], .operation .greater),
  (['|'], .operation .bitOr), (['^'], .operation .bitXor), (['&'], .operation .bitAnd),
  (['+'], .operation .add), (['-'], .operation .subtract), (['*'], .operation .multiply),
  (['/'], .operation .divide), (['%'], .operation .remainder),
  (['='], .assign none), (['!'], .isZero), (['~'], .complement), (['?'], .choice),
  ([':'], .otherwise), (['('], .opening), ([')'], .closing)]

/-- Whether a character may stand in a name. -/
def isNameChar (char : Char) : Bool := char.isAlphanum || char == '_'

/-- The first token of a text, and what follows it. -/
def firstToken (text : List Char) : Option (Token × List Char) :=
  match text.dropWhile fun char => char == ' ' || char == '\t' || char == '\n' with
  | [] => none
  | char :: rest =>
    if char.isDigit then
      (Format.integer? (char :: rest)).map fun (value, rest) => (.number (min value maxInteger), rest)
    else if isNameChar char then
      let name := (char :: rest).takeWhile isNameChar
      some (.parameter (String.ofList name), (char :: rest).drop name.length)
    else
      match spellings.find? fun (spelling, _) => spelling.isPrefixOf (char :: rest) with
      | some (spelling, token) => some (token, (char :: rest).drop spelling.length)
      | none => some (.stray char, rest)

/-- The tokens of a text. The fuel bounds their number. -/
def tokens : Nat → List Char → List Token
  | 0, _ => []
  | fuel + 1, text =>
    match firstToken text with
    | none => []
    | some (token, rest) => token :: tokens fuel rest

/-! ## Evaluation -/

/-- What an expression has assigned, latest first. -/
abbrev Assigned := List (String × Int)

/-- An expression that is being evaluated. -/
structure Progress where
  /-- The tokens that were not read yet. -/
  rest : List Token
  assigned : Assigned := []

/-- A step in the evaluation of an expression. -/
abbrev Evaluation := StateT Progress (Except Fault)

/-- The integer that the text of a parameter writes, which blanks may surround. -/
def value (text : List Char) : Except Fault Int :=
  match Format.integer? text with
  | some (value, rest) =>
    if rest.all Format.isBlank && -maxInteger - 1 ≤ value && value ≤ maxInteger then .ok value
    else .error (.noNumber text)
  | none => if text.all Format.isBlank then .ok 0 else .error (.noNumber text)

namespace Evaluation

/-- Go on after the next token. -/
def advance : Evaluation Unit :=
  modify fun progress => { progress with rest := progress.rest.drop 1 }

/-- The next token. -/
def next : Evaluation (Option Token) := return (← get).rest.head?

/-- Go on after the next token, which has to be a certain one. -/
def expect (token : Token) (fault : Fault) : Evaluation Unit := do
  unless (← next) = some token do throw fault
  advance

/-- The integer that a parameter holds, given the texts of parameters. -/
def parameter (lookup : String → List Char) (name : String) : Evaluation Int := do
  match (← get).assigned.lookup name with
  | some value => return value
  | none => liftM (value (lookup name))

/-- Give a parameter a value after an operation with the one before, if there is any. -/
def assign (lookup : String → List Char) (name : String) (operation : Option Operation)
    (value : Int) : Evaluation Int := do
  let result ←
    match operation with
    | none => pure value
    | some operation => do
      let before ← parameter lookup name
      liftM (operation.apply before value)
  modify fun progress => { progress with assigned := (name, result) :: progress.assigned }
  return result

mutual

/-- Evaluate an expression, or read it only. -/
def expression (lookup : String → List Char) : Nat → Bool → Evaluation Int
  | 0, _ => throw .expectingPrimary
  | fuel + 1, reads => do
    match (← get).rest with
    | .parameter name :: .assign operation :: rest => do
      modify fun progress => { progress with rest }
      let value ← expression lookup fuel reads
      if reads then return value else assign lookup name operation value
    | _ => condition lookup fuel reads

/-- Evaluate a choice between two sides, or what has no choice in it. -/
def condition (lookup : String → List Char) : Nat → Bool → Evaluation Int
  | 0, _ => throw .expectingPrimary
  | fuel + 1, reads => do
    let chosen ← disjunction lookup fuel reads
    unless (← next) = some .choice do return chosen
    advance
    let yes ← expression lookup fuel (reads || chosen = 0)
    expect .otherwise .expectingColon
    let no ← condition lookup fuel (reads || chosen ≠ 0)
    return if chosen ≠ 0 then yes else no

/-- Evaluate terms of which one has to hold. -/
def disjunction (lookup : String → List Char) : Nat → Bool → Evaluation Int
  | 0, _ => throw .expectingPrimary
  | fuel + 1, reads => do
    let first ← conjunction lookup fuel reads
    unless (← next) = some .either do return first
    advance
    let others ← disjunction lookup fuel (reads || first ≠ 0)
    return truth (first ≠ 0 || others ≠ 0)

/-- Evaluate terms of which all have to hold. -/
def conjunction (lookup : String → List Char) : Nat → Bool → Evaluation Int
  | 0, _ => throw .expectingPrimary
  | fuel + 1, reads => do
    let first ← primary lookup fuel reads
    let first ← operations lookup fuel reads 0 first
    unless (← next) = some .both do return first
    advance
    let others ← conjunction lookup fuel (reads || first = 0)
    return truth (first ≠ 0 && others ≠ 0)

/-- Carry out the operations that follow an operand and bind more closely than some
precedence. -/
def operations (lookup : String → List Char) : Nat → Bool → Nat → Int → Evaluation Int
  | 0, _, _, _ => throw .expectingPrimary
  | fuel + 1, reads, above, left => do
    match ← next with
    | some (.operation operation) =>
      if operation.precedence ≤ above then return left
      advance
      let right ← primary lookup fuel reads
      let right ← operations lookup fuel reads operation.precedence right
      let result ← if reads then pure right else liftM (operation.apply left right)
      operations lookup fuel reads above result
    | _ => return left

/-- Evaluate an operand. -/
def primary (lookup : String → List Char) : Nat → Bool → Evaluation Int
  | 0, _ => throw .expectingPrimary
  | fuel + 1, reads => do
    match ← next with
    | some (.number value) =>
      advance
      return value
    | some (.parameter name) =>
      advance
      if reads then return 0 else parameter lookup name
    | some (.operation .add) =>
      advance
      primary lookup fuel reads
    | some (.operation .subtract) =>
      advance
      return wrap (-(← primary lookup fuel reads))
    | some .isZero =>
      advance
      return truth ((← primary lookup fuel reads) = 0)
    | some .complement =>
      advance
      return wrap (-(← primary lookup fuel reads) - 1)
    | some .opening =>
      advance
      let value ← expression lookup fuel reads
      expect .closing .expectingParenthesis
      return value
    | _ => throw .expectingPrimary

end

end Evaluation

/-- The value of an expression with what it assigns, given the texts of parameters. -/
def evaluate (lookup : String → List Char) (text : List Char) : Except Fault (Int × Assigned) := do
  let tokens := tokens text.length text
  let (value, progress) ←
    (Evaluation.expression lookup (8 * tokens.length + 8) false).run { rest := tokens }
  unless progress.rest.isEmpty do throw .expectingEnd
  return (value, progress.assigned)

end Crosscheck.Script.Arithmetic
