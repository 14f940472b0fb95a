import Crosscheck.Toml.Scalar
import Crosscheck.Toml.Table
import Crosscheck.Toml.Text

/-!
# Documents of the settings language

A document is a list of sections, the first of them without a heading, and a section is
a list of keys with values. A text that breaks a rule anywhere denotes nothing.
-/

namespace Crosscheck.Toml

/-- A character of a key without quotes. -/
def isKeyChar (char : Char) : Bool := char.isAlphanum || char == '_' || char == '-'

/-- Read one part of a key. -/
def readPart? (text : List Char) : Option (String × List Char) :=
  match readShort? text with
  | some result => some result
  | none =>
    let part := text.takeWhile isKeyChar
    if part.isEmpty then none else some (String.ofList part, text.dropWhile isKeyChar)

/-- The depth from which on arrays, tables and keys are too deep. -/
def maxDepth : Nat := 80

/-- Read a key: parts with dots between them. The fuel bounds the number of parts. -/
def readKey? : Nat → List Char → Option (List String × List Char)
  | 0, _ => none
  | fuel + 1, text => do
    let (part, rest) ← readPart? (skipBlanks text)
    match skipBlanks rest with
    | '.' :: rest => do
      let (parts, rest) ← readKey? fuel rest
      return (part :: parts, rest)
    | rest => return ([part], rest)

mutual

/-- Read a value. The depth bounds how deep values nest, the fuel the number of nested
calls. -/
def readValue? : Nat → Nat → List Char → Option (Value × List Char)
  | 0, _, _ => none
  | fuel + 1, depth, text =>
    match text, depth with
    | '[' :: _, 0 => none
    | '\x7b' :: _, 0 => none
    | '[' :: rest, depth + 1 => do
      let rest ← skipSpace false rest
      match rest with
      | ']' :: rest => return (.array [], rest)
      | _ => readItems? fuel depth [] rest
    | '\x7b' :: rest, depth + 1 =>
      match skipBlanks rest with
      | '\x7d' :: rest => some (.table [], rest)
      | rest => readPairs? fuel depth [] rest
    | '\x22' :: _, _ => do
      let (string, rest) ← readString? text
      return (.string string, rest)
    | '\x27' :: _, _ => do
      let (string, rest) ← readString? text
      return (.string string, rest)
    | _, _ => readWord? text

/-- Read the items of an array from one on; those before it stand latest first. -/
def readItems? : Nat → Nat → List Value → List Char → Option (Value × List Char)
  | 0, _, _, _ => none
  | fuel + 1, depth, items, text => do
    let (item, rest) ← readValue? fuel depth text
    let rest ← skipSpace false rest
    match rest with
    | ']' :: rest => return (.array (item :: items).reverse, rest)
    | ',' :: rest => do
      let rest ← skipSpace false rest
      match rest with
      | ']' :: rest => return (.array (item :: items).reverse, rest)
      | _ => readItems? fuel depth (item :: items) rest
    | _ => none

/-- Read the members of a table in braces from one on. -/
def readPairs? : Nat → Nat → Members → List Char → Option (Value × List Char)
  | 0, _, _, _ => none
  | fuel + 1, depth, members, text => do
    let (key, rest) ← readKey? (maxDepth - 1) text
    match rest with
    | '=' :: rest => do
      let (value, rest) ← readValue? fuel depth (skipBlanks rest)
      let members ← members.define value key
      match skipBlanks rest with
      | '\x7d' :: rest => return (.table (Members.toValues members), rest)
      | ',' :: rest => readPairs? fuel depth members rest
      | _ => none
    | _ => none

end

/-- The heading of a section. -/
inductive Heading where
  | none
  | table (key : List String)
  | repeated (key : List String)
  deriving DecidableEq, Repr

/-- A heading and the pairs below it. -/
structure Section where
  heading : Heading
  pairs : List (List String × Value)

/-- Read a key and its value. -/
def readPair? (text : List Char) : Option ((List String × Value) × List Char) := do
  let (key, rest) ← readKey? (maxDepth - 1) text
  match rest with
  | '=' :: rest => do
    let (value, rest) ← readValue? (2 * text.length + 2) (maxDepth - 1) (skipBlanks rest)
    return ((key, value), rest)
  | _ => none

/-- Read a heading. -/
def readHeading? : List Char → Option (Heading × List Char)
  | '[' :: '[' :: rest => do
    let (key, rest) ← readKey? (maxDepth - 1) rest
    match rest with
    | ']' :: ']' :: rest => return (.repeated key, rest)
    | _ => none
  | '[' :: rest => do
    let (key, rest) ← readKey? (maxDepth - 1) rest
    match rest with
    | ']' :: rest => return (.table key, rest)
    | _ => none
  | _ => none

/-- Read lines; the section being read has its pairs latest first, as the sections before
it stand latest first. The fuel bounds the number of lines. -/
def readLines? : Nat → Heading → List (List String × Value) → List Section → List Char →
    Option (List Section)
  | 0, _, _, _, _ => none
  | fuel + 1, heading, pairs, sections, text =>
    match skipBlanks text with
    | [] => some (⟨heading, pairs.reverse⟩ :: sections).reverse
    | '[' :: rest => do
      let (next, rest) ← readHeading? ('[' :: rest)
      readLines? fuel next [] (⟨heading, pairs.reverse⟩ :: sections) (← endLine? rest)
    | char :: rest =>
      if char = '#' ∨ char = '\n' ∨ char = '\r' then do
        readLines? fuel heading pairs sections (← endLine? (char :: rest))
      else do
        let (pair, rest) ← readPair? (char :: rest)
        readLines? fuel heading (pair :: pairs) sections (← endLine? rest)

/-- Add a section to the tables before it. -/
def Section.addTo (next : Section) (members : Members) : Option Members :=
  match next.heading with
  | .none => members.defineAll next.pairs
  | .table key => do
    members.reach (Members.addTable (← key.getLast?) next.pairs) key.dropLast
  | .repeated key => do
    members.reach (Members.addRepeated (← key.getLast?) next.pairs) key.dropLast

/-- The members that a text denotes. A byte order mark in front is passed over. -/
def read? (text : String) : Option (List (String × Value)) := do
  let text :=
    match text.toList with
    | '\uFEFF' :: rest => rest
    | rest => rest
  let sections ← readLines? (text.length + 1) .none [] [] text
  return Members.toValues (← sections.foldlM (fun members next => next.addTo members) [])

end Crosscheck.Toml
