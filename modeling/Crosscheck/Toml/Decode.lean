import Crosscheck.Decimal.Shortest
import Crosscheck.Text.Quoted
import Crosscheck.Toml.Value

/-!
# Decoding settings

The members of a table are decoded in the order of the document, and the first bad one
counts; only then is it told which ones are missing, in the order of their declaration.
A record may also be written as an array of its fields.
-/

namespace Crosscheck.Toml

/-- Why values do not denote what is wanted. -/
inductive DecodeError where
  | unknownField (name : String) (fields : List String)
  | missingField (name : String)
  /-- A value of another kind than the wanted one. -/
  | wrongKind (value : Value) (wanted : String)
  | negative (value : Int) (wanted : String)
  /-- An array has too few items for the fields of a record. -/
  | tooShort
  deriving Repr

namespace Value

/-- How a value is referred to. -/
def describe : Value → String
  | .string text => "string " ++ Text.quoted text
  | .integer value => s!"integer \x60{value}\x60"
  | .float value =>
    let digits := Decimal.shortest value
    let point := if value.isFinite && !digits.toList.contains '.' then ".0" else ""
    s!"floating point \x60{digits ++ point}\x60"
  | .boolean value => s!"boolean \x60{value}\x60"
  | .date => "map"
  | .array _ => "sequence"
  | .table _ => "map"

end Value

/-- Names between backquotes. -/
def backquoted (names : List String) : String :=
  ", ".intercalate (names.map fun name => "\x60" ++ name ++ "\x60")

/-- The wording of an error. What is said of an array that is too short is not fixed. -/
def DecodeError.message? : DecodeError → Option String
  | .unknownField name [field] => s!"unknown field \x60{name}\x60, expected \x60{field}\x60"
  | .unknownField name fields =>
    s!"unknown field \x60{name}\x60, expected one of {backquoted fields}"
  | .missingField name => s!"missing field \x60{name}\x60"
  | .wrongKind value wanted => s!"invalid type: {value.describe}, expected {wanted}"
  | .negative value wanted => s!"invalid value: integer \x60{value}\x60, expected {wanted}"
  | .tooShort => none

/-- The result of decoding. -/
abbrev Decoded := Except DecodeError

namespace Value

/-- A text; `wanted` says what it is for. -/
def text? (wanted : String) : Value → Decoded String
  | .string text => .ok text
  | value => .error (.wrongKind value wanted)

/-- A number that is not negative. -/
def natural? (wanted : String) : Value → Decoded Nat
  | .integer value => if value < 0 then .error (.negative value wanted) else .ok value.toNat
  | value => .error (.wrongKind value wanted)

/-- A number with a fraction; an integer has none. -/
def fraction? : Value → Decoded Float
  | .float value => .ok value
  | .integer value =>
    let size := Decimal.ofDecimal value.natAbs 0
    .ok (if value < 0 then -size else size)
  | value => .error (.wrongKind value "f64")

/-- A truth value. -/
def boolean? : Value → Decoded Bool
  | .boolean value => .ok value
  | value => .error (.wrongKind value "a boolean")

/-- A list of values. -/
def list? {α : Type} (decode : Value → Decoded α) : Value → Decoded (List α)
  | .array items => items.mapM decode
  | value => .error (.wrongKind value "a sequence")

end Value

/-- The fields of a record. -/
structure RecordShape where
  name : String
  fields : List String
  /-- The number of items without which an array is no such record. -/
  needed : Nat := 0

namespace RecordShape

/-- The members of a value that is to be a record, and whether they stand in an array. -/
def members (shape : RecordShape) : Value → Decoded (List (String × Value) × Bool)
  | .table members => .ok (members, false)
  | .date => .ok ([("$__toml_private_datetime", .date)], false)
  | .array items => .ok (shape.fields.zip items, true)
  | value => .error (.wrongKind value ("struct " ++ shape.name))

/-- Decode a record member by member. -/
def decode {σ : Type} (shape : RecordShape) (start : σ)
    (step : σ → String → Value → Decoded σ) (value : Value) : Decoded σ := do
  let (members, isArray) ← shape.members value
  let found ← members.foldlM (fun found (name, value) =>
    if shape.fields.contains name then step found name value
    else .error (.unknownField name shape.fields)) start
  if isArray ∧ members.length < shape.needed then .error .tooShort else .ok found

end RecordShape

/-- A field that has to be there. -/
def require {α : Type} (name : String) : Option α → Decoded α
  | some value => .ok value
  | none => .error (.missingField name)

end Crosscheck.Toml
