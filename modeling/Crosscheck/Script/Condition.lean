import Crosscheck.Files.Tree
import Crosscheck.Script.Format
import Crosscheck.Text.Octets

/-!
# Conditions

What the utility `test` decides, which also goes by an opening bracket. A word is an
operator only where its neighbours leave room for what it works on, and up to four words are
divided by their number first.
-/

namespace Crosscheck.Script.Condition

/-- What a word does in a condition. -/
inductive Role where
  | operand
  | unary
  | binary
  | negation
  | both
  | either
  | opening
  | closing
  deriving DecidableEq, Repr

/-- The operators with one operand. -/
def unaryOperators : List String :=
  ["-r", "-w", "-x", "-e", "-f", "-d", "-c", "-b", "-p", "-u", "-g", "-k", "-s", "-t", "-z", "-n",
    "-h", "-O", "-G", "-L", "-S"]

/-- The operators with two operands. -/
def binaryOperators : List String :=
  ["=", "!=", "<", ">", "-eq", "-ne", "-ge", "-gt", "-le", "-lt", "-nt", "-ot", "-ef"]

/-- What a word does wherever it is an operator. -/
def roleOf (word : List Char) : Role :=
  let word := String.ofList word
  if unaryOperators.contains word then .unary
  else if binaryOperators.contains word then .binary
  else
    match word with
    | "!" => .negation
    | "-a" => .both
    | "-o" => .either
    | "(" => .opening
    | ")" => .closing
    | _ => .operand

/-- What the first of some words does, given the others; `none` if there is no word. -/
def role? : List (List Char) → Option Role
  | [] => none
  | [word] =>
    match roleOf word with
    | .unary => some .operand
    | .opening => some .operand
    | role => some role
  | word :: next :: others =>
    match roleOf word with
    | .unary =>
      if others.isEmpty then some .unary
      else if roleOf next = .binary then some .operand
      else some .unary
    | role => some role

/-- Decide a condition on one word. -/
def decideUnary (tree : FileTree) (here : Place) (operator : String) (text : List Char) : Bool :=
  let path := Text.pathOf text
  let node? := (tree.find here path).toOption
  match operator with
  | "-n" => !text.isEmpty
  | "-z" => text.isEmpty
  | "-f" =>
    match node? with
    | some (.file ..) => true
    | _ => false
  | "-d" => node? == some .directory
  | "-s" =>
    match node? with
    | some (.file octets _) => !octets.isEmpty
    | some .directory => true
    | _ => false
  | "-x" =>
    match node? with
    | some (.file _ executable) => executable
    | some .directory => true
    | _ => false
  | "-c" =>
    match node? with
    | some (.device _) => true
    | _ => false
  | "-h" => isLink path
  | "-L" => isLink path
  | _ => ["-e", "-r", "-w", "-O", "-G"].contains operator && node?.isSome
where
  isLink (path : String) : Bool :=
    match (tree.locateNew here path).toOption.bind tree.node? with
    | some (.link _) => true
    | _ => false

/-- The number of a text with decimal digits, which blanks may surround. -/
def number (text : List Char) : Except (List Char) Int :=
  let isBlank (char : Char) := char == ' ' || ('\t' ≤ char && char ≤ '\r')
  let trimmed := ((text.dropWhile isBlank).reverse.dropWhile isBlank).reverse
  let (negative, digits) : Bool × List Char :=
    match trimmed with
    | '-' :: rest => (true, rest)
    | '+' :: rest => (false, rest)
    | _ => (false, trimmed)
  let size : Int := Format.valueIn 10 digits
  let value := if negative then -size else size
  let isSound := !digits.isEmpty && digits.all Char.isDigit &&
    -(UInt64.size / 2 : Nat) ≤ value && value ≤ (UInt64.size / 2 - 1 : Nat)
  if isSound then .ok value else .error ("Illegal number: ".toList ++ text)

/-- Decide a condition on two words. -/
def decideBinary (tree : FileTree) (here : Place) (left : List Char) (operator : String)
    (right : List Char) : Except (List Char) Bool := do
  let compare (holds : Int → Int → Bool) : Except (List Char) Bool := do
    return holds (← number left) (← number right)
  match operator with
  | "=" => return left == right
  | "!=" => return left != right
  | "<" => return left < right
  | ">" => return right < left
  | "-eq" => compare fun left right => left == right
  | "-ne" => compare fun left right => left != right
  | "-lt" => compare fun left right => left < right
  | "-le" => compare fun left right => left ≤ right
  | "-gt" => compare fun left right => right < left
  | "-ge" => compare fun left right => right ≤ left
  | "-ef" =>
    let place? (path : List Char) : Option Place := do
      let place ← (tree.locate here (Text.pathOf path)).toOption
      discard (tree.node? place)
      return place
    return (place? left).isSome && place? left == place? right
  | _ => return false

/-- The words of a condition that is being decided, from the current one on. -/
abbrev Decider := StateT (List (List Char)) (Except (List Char))

namespace Decider

/-- The wording of a problem with a word, which is named unless it is empty. -/
def wording (word : List Char) (problem : String) : List Char :=
  (if word.isEmpty then [] else word ++ ": ".toList) ++ problem.toList

/-- Refuse a condition because of one of its words. -/
def refuse {α : Type} (word : Option (List Char)) (problem : String) : Decider α :=
  throw (wording (word.getD []) problem)

/-- Go on to a later word; what it does. -/
def advance (count : Nat) : Decider (Option Role) := do
  modify (·.drop count)
  return role? (← get)

/-- What the next word does. -/
def ahead : Decider (Option Role) := return role? ((← get).drop 1)

mutual

/-- Decide whether one of several conditions holds. -/
def disjunction (tree : FileTree) (here : Place) : Nat → Option Role → Decider Bool
  | 0, _ => refuse none "argument expected"
  | fuel + 1, role => do
    let first ← conjunction tree here fuel role
    if (← ahead) = some .either then
      let rest ← disjunction tree here fuel (← advance 2)
      return rest || first
    return first

/-- Decide whether all of several conditions hold. -/
def conjunction (tree : FileTree) (here : Place) : Nat → Option Role → Decider Bool
  | 0, _ => refuse none "argument expected"
  | fuel + 1, role => do
    let first ← negation tree here fuel role
    if (← ahead) = some .both then
      let rest ← conjunction tree here fuel (← advance 2)
      return rest && first
    return first

/-- Decide a condition that may be negated. -/
def negation (tree : FileTree) (here : Place) : Nat → Option Role → Decider Bool
  | 0, _ => refuse none "argument expected"
  | fuel + 1, role => do
    if role ≠ some .negation then primary tree here fuel role
    else
      let next ← ahead
      if next.isSome then modify (·.drop 1)
      return !(← negation tree here fuel next)

/-- Decide a condition without words that join it to others. -/
def primary (tree : FileTree) (here : Place) : Nat → Option Role → Decider Bool
  | 0, _ => refuse none "argument expected"
  | fuel + 1, role => do
    match role with
    | none => return false
    | some .opening =>
      let next ← advance 1
      if next = some .closing then return false
      let holds ← disjunction tree here fuel next
      if (← advance 1) ≠ some .closing then refuse none "closing paren expected"
      return holds
    | _ =>
      let words ← get
      match role, words with
      | some .unary, operator :: text :: _ =>
        modify (·.drop 1)
        let operator := String.ofList operator
        if operator = "-t" then discard (liftM (number text))
        return decideUnary tree here operator text
      | some .unary, [operator] => refuse (some operator) "argument expected"
      | _, left :: operator :: others =>
        if (← ahead) = some .binary then
          match others with
          | right :: _ =>
            modify (·.drop 2)
            liftM (decideBinary tree here left (String.ofList operator) right)
          | [] => refuse (some operator) "argument expected"
        else return !left.isEmpty
      | _, [text] => return !text.isEmpty
      | _, [] => return false

end

end Decider

/-- Decide the condition that words express. -/
def decide (tree : FileTree) (here : Place) (words : List (List Char)) :
    Except (List Char) Bool :=
  match words with
  | [] => .ok false
  | [left, operator, right] =>
    if roleOf operator = .binary then evaluate words (some .operand)
    else
      match left, right with
      | ['('], [')'] => evaluate [operator] (role? [operator])
      | ['!'], _ => (decideTwo [operator, right]).map (!·)
      | _, _ => evaluate words (role? words)
  | first :: second :: third :: [fourth] =>
    if first = ['('] ∧ fourth = [')'] then evaluate [second, third] (role? [second, third])
    else if first = ['!'] then (decideThree [second, third, fourth]).map (!·)
    else evaluate words (role? words)
  | words => evaluate words (role? words)
where
  evaluate (words : List (List Char)) (role : Option Role) : Except (List Char) Bool := do
    let (holds, rest) ← (Decider.disjunction tree here (6 * words.length + 6) role).run words
    match rest with
    | word :: _ :: _ => throw (Decider.wording word "unexpected operator")
    | _ => return holds
  decideTwo (words : List (List Char)) : Except (List Char) Bool := evaluate words (role? words)
  decideThree (words : List (List Char)) : Except (List Char) Bool :=
    match words with
    | [left, operator, right] =>
      if roleOf operator = .binary then evaluate words (some .operand)
      else if left = ['('] ∧ right = [')'] then evaluate [operator] (role? [operator])
      else if left = ['!'] then evaluate [operator, right] (role? [operator, right])
      else evaluate words (role? words)
    | _ => evaluate words (role? words)

end Crosscheck.Script.Condition
