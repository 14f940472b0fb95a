import Crosscheck.Json.Document

/-!
# Decoding documents

A record is an object whose members may come in any order, or an array of its fields
in declaration order; a variant is an object with the variant's name as its one
member, or the name alone. The members of an object are taken in document order and
the first bad value wins; a missing field is reported after the whole object.
-/

namespace Crosscheck.Json

/-- Why a document is refused. -/
inductive DecodeError where
  /-- The text breaks the grammar, or a value has the wrong form. -/
  | malformed
  | missingField (name : String)
  | unknownVariant (name : String) (expected : List String)
  deriving DecidableEq, Repr

/-- Names to choose from: two are joined by a word, more are listed. -/
def expectedNames (names : List String) : String :=
  match names.map fun name => "\x60" ++ name ++ "\x60" with
  | [first, second] => first ++ " or " ++ second
  | [only] => only
  | quoted => "one of " ++ ", ".intercalate quoted

/-- The wording of a refusal; a malformed document has no fixed one. -/
def DecodeError.message? : DecodeError → Option String
  | .malformed => none
  | .missingField name => some ("missing field \x60" ++ name ++ "\x60")
  | .unknownVariant name expected =>
    some ("unknown variant \x60" ++ name ++ "\x60, expected " ++ expectedNames expected)

/-- What decoding answers. -/
abbrev Decoded (α : Type) := Except DecodeError α

namespace Document

/-- A natural number below a bound. -/
def natural? (bound : Nat) : Document → Decoded Nat
  | .natural value => if value < bound then .ok value else .error .malformed
  | _ => .error .malformed

/-- A number of 64 bits. -/
def word? (document : Document) : Decoded UInt64 :=
  (document.natural? UInt64.size).map UInt64.ofNat

/-- A number of 8 bits. -/
def octet? (document : Document) : Decoded UInt8 :=
  (document.natural? 256).map UInt8.ofNat

/-- A string. -/
def text? : Document → Decoded String
  | .string (some value) => .ok value
  | _ => .error .malformed

/-- An array whose items all decode. -/
def list? {α : Type} (item : Document → Decoded α) : Document → Decoded (List α)
  | .array items closed => do
    let values ← items.mapM item
    if closed then .ok values else .error .malformed
  | _ => .error .malformed

/-- The fields of a record before they are decoded: the members in document order,
whether the record ends as it should, and whether they were given by position. -/
structure Fields where
  members : List (Option String × Document)
  complete : Bool
  positional : Bool

/-- The fields of a document that stands for a record with the given field names. -/
def fields? (names : List String) : Document → Decoded Fields
  | .object members closed => .ok ⟨members, closed, false⟩
  | .array items closed =>
    .ok ⟨(names.map some).zip items, closed && items.length ≤ names.length, true⟩
  | _ => .error .malformed

namespace Fields

/-- Take the members in order; a name that is no text is refused. -/
def fold {σ : Type} (fields : Fields) (step : σ → String → Document → Decoded σ) (start : σ) :
    Decoded σ := do
  let state ← fields.members.foldlM (fun state (name, value) =>
    match name with
    | some name => step state name value
    | none => .error .malformed) start
  if fields.complete then .ok state else .error .malformed

/-- A field that must be there. -/
def require {α : Type} (fields : Fields) (name : String) : Option α → Decoded α
  | some value => .ok value
  | none => .error (if fields.positional then .malformed else .missingField name)

end Fields

/-- Decode a field unless it was there before. -/
def once {α : Type} (decode : Document → Decoded α) (before : Option α) (value : Document) :
    Decoded (Option α) :=
  match before with
  | some _ => .error .malformed
  | none => (decode value).map some

/-- The name of a variant and its content, none if the name stands alone. The
choice among the names is made before the content is looked at. -/
def variant? {α : Type} (names : List String) (decode : String → Option Document → Decoded α) :
    Document → Decoded α
  | .string (some name) =>
    if names.contains name then decode name none else .error (.unknownVariant name names)
  | .object ((some name, content) :: rest) closed =>
    if names.contains name then do
      let value ← decode name (some content)
      if closed ∧ rest.isEmpty then .ok value else .error .malformed
    else .error (.unknownVariant name names)
  | _ => .error .malformed

/-- Decode a whole text. -/
def decodeText {α : Type} (decode : Document → Decoded α) (text : String) : Decoded α := do
  let (document, complete) := read text.toList
  let value ← decode document
  if complete then .ok value else .error .malformed

end Document
end Crosscheck.Json
