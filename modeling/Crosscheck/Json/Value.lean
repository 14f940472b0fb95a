/-!
# JSON text

Findings, outcomes and corpora are written as compact JSON: no blanks, the members
of an object in the order of its list. A string escapes its two delimiters and the
controls below U+0020, and holds every other character as it is.
-/

namespace Crosscheck

/-- The JSON values that are written. -/
inductive Json where
  | number (value : Nat)
  | string (value : String)
  | array (items : List Json)
  | object (members : List (String × Json))
  deriving Repr, Inhabited

namespace Json

/-- The four hexadecimal digits of a control's code. -/
def codeDigits (code : Nat) : List Char :=
  [Nat.digitChar (code / 4096 % 16), Nat.digitChar (code / 256 % 16),
    Nat.digitChar (code / 16 % 16), Nat.digitChar (code % 16)]

/-- A character inside a string. -/
def escape (char : Char) : List Char :=
  match char with
  | '\x22' => ['\\', '\x22']
  | '\\' => ['\\', '\\']
  | '\x08' => ['\\', 'b']
  | '\x0c' => ['\\', 'f']
  | '\n' => ['\\', 'n']
  | '\r' => ['\\', 'r']
  | '\t' => ['\\', 't']
  | _ => if char.toNat < 0x20 then '\\' :: 'u' :: codeDigits char.toNat else [char]

/-- A string with its delimiters. -/
def printText (text : List Char) : List Char :=
  '\x22' :: text.flatMap escape ++ ['\x22']

/-- The digits of a number. -/
def printNumber (value : Nat) : List Char := Nat.toDigits 10 value

mutual

/-- The text of a value. -/
def print : Json → List Char
  | .number value => printNumber value
  | .string value => printText value.toList
  | .array items => '[' :: printItems items ++ [']']
  | .object members => '\x7b' :: printMembers members ++ ['\x7d']

/-- Values with a comma between two. -/
def printItems : List Json → List Char
  | [] => []
  | item :: rest => item.print ++ printFurtherItems rest

/-- Values with a comma before each. -/
def printFurtherItems : List Json → List Char
  | [] => []
  | item :: rest => ',' :: item.print ++ printFurtherItems rest

/-- Members with a comma between two. -/
def printMembers : List (String × Json) → List Char
  | [] => []
  | member :: rest => printMember member ++ printFurtherMembers rest

/-- Members with a comma before each. -/
def printFurtherMembers : List (String × Json) → List Char
  | [] => []
  | member :: rest => ',' :: printMember member ++ printFurtherMembers rest

/-- A name and its value. -/
def printMember : String × Json → List Char
  | (name, value) => printText name.toList ++ ':' :: value.print

end

/-- The text of a value as a string. -/
def compact (json : Json) : String := String.ofList json.print

/-- An array of strings. -/
def texts (values : List String) : Json := .array (values.map .string)

end Json
end Crosscheck
