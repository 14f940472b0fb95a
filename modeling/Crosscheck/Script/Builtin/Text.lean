import Crosscheck.Script.Builtin.Basic
import Crosscheck.Script.Condition

/-!
# Texts

The commands that write texts, read lines and decide conditions.
-/

namespace Crosscheck.Script.Builtin

/-- Write the arguments. -/
def echo (_ : Interpreter) (_ : Manner) (arguments : List (List Char)) : Shell Nat :=
  say (Format.echo arguments)

/-- Write the arguments as a format says. -/
def printf (_ : Interpreter) (_ : Manner) (arguments : List (List Char)) : Shell Nat := do
  match ← operands arguments with
  | [] => Shell.giveUp "usage: printf format [arg ...]".toList
  | format :: arguments =>
    let progress := Format.printf format arguments
    progress.warnings.forM Shell.complain
    progress.malformed.toList.forM Shell.complain
    let status ← say progress.out
    if progress.malformed.isSome then return 2
    return max status (if progress.warnings.isEmpty then 0 else 1)

/-- Decide a condition. -/
def decide (words : List (List Char)) : Shell Nat := do
  match Condition.decide (← Activity.look) (← get).directory words with
  | .ok true => return 0
  | .ok false => return 1
  | .error message => Shell.giveUp message

/-- Decide the condition that the arguments express. -/
def test (_ : Interpreter) (_ : Manner) (arguments : List (List Char)) : Shell Nat :=
  decide arguments

/-- Decide the condition that the arguments express before a closing bracket. -/
def bracket (_ : Interpreter) (_ : Manner) (arguments : List (List Char)) : Shell Nat :=
  if arguments.getLast? == some [']'] then decide arguments.dropLast
  else Shell.giveUp "missing ]".toList

/-! ## Reading lines -/

/-- The characters of a line without its terminator, with whether each was protected by a
backslash, and whether the line goes on. -/
def unprotected (raw : Bool) : List Char → List (Char × Bool) × Bool
  | [] => ([], false)
  | '\\' :: rest =>
    if raw then
      let (chars, continues) := unprotected raw rest
      (('\\', false) :: chars, continues)
    else
      match rest with
      | [] => ([], false)
      | '\n' :: _ => ([], true)
      | char :: rest =>
        let (chars, continues) := unprotected raw rest
        ((char, true) :: chars, continues)
  | '\n' :: _ => ([], false)
  | '\x00' :: rest => unprotected raw rest
  | char :: rest =>
    let (chars, continues) := unprotected raw rest
    ((char, false) :: chars, continues)

/-- Divide a line among a number of variables. The last one takes all that is left. -/
def divideLine (separators : List Char) : Nat → List (Char × Bool) → List (List Char)
  | 0, _ => []
  | count + 1, line =>
    let separates (item : Char × Bool) := !item.2 && separators.contains item.1
    let isBlank (item : Char × Bool) := separates item && Glyph.isBlank item.1
    let line := line.dropWhile isBlank
    if count = 0 then [lastField separates isBlank line]
    else
      let field := line.takeWhile (!separates ·)
      let rest := (line.drop field.length).dropWhile isBlank
      let rest :=
        match rest with
        | item :: later => if separates item then later else rest
        | [] => rest
      field.map Prod.fst :: divideLine separators count rest
where
  /-- All that is left of a line. Blanks at its end are dropped, and so is a separator there
  if it is the only one. -/
  lastField (separates isBlank : Char × Bool → Bool) (line : List (Char × Bool)) : List Char :=
    let line := (line.reverse.dropWhile isBlank).reverse
    let field := line.takeWhile (!separates ·)
    let rest := (line.drop field.length).dropWhile isBlank
    let isEnded :=
      match rest with
      | [item] => separates item && !isBlank item
      | _ => false
    (if isEnded then field else line).map Prod.fst

/-- Read a line that may go on in further ones; the answer tells whether it was complete. The
fuel bounds the number of lines. -/
def readLogicalLine (raw : Bool) (handle : Handle) : Nat → Shell (List (Char × Bool) × Bool)
  | 0 => return ([], false)
  | fuel + 1 => do
    match ← Activity.readLine handle with
    | .error _ => return ([], false)
    | .ok octets =>
      let text := Text.ofOctets octets
      let (chars, continues) := unprotected raw text
      if continues then
        let (more, complete) ← readLogicalLine raw handle fuel
        return (chars ++ more, complete)
      return (chars, text.getLast? == some '\n')

/-- Read a line into variables. -/
def read (_ : Interpreter) (_ : Manner) (arguments : List (List Char)) : Shell Nat := do
  let (options, names) ← options "p:r" arguments
  let raw := options.any fun (letter, _) => letter == 'r'
  if names.isEmpty then Shell.giveUp "arg count".toList
  let (line, complete) ←
    match (← get).descriptors.lookup 0 with
    | some handle => readLogicalLine raw handle plenty
    | none => pure ([], false)
  let values := divideLine (← get).separators names.length line
  (names.zip values).forM fun (name, value) => do
    checkName (String.ofList name)
    Shell.assign (String.ofList name) value
  return if complete then 0 else 1

end Crosscheck.Script.Builtin
