import Crosscheck.Json.Decode
import Crosscheck.Json.Value
import Crosscheck.Outcome

/-!
# Outcomes as JSON

An outcome is a variant around its content, and so is an output; a fault is a record
of its kind and detail.
-/

namespace Crosscheck

open Json (Document Decoded)

namespace Output

/-- The JSON value of an output. -/
def toJson : Output → Json
  | .rows values => .object [("rows", .array (values.map Json.texts))]
  | .changes count => .object [("changes", .number count.toNat)]
  | .error text => .object [("error", .string text)]

/-- Decode an output. -/
def decode : Document → Decoded Output :=
  Document.variant? ["rows", "changes", "error"] fun name content =>
    match name, content with
    | "rows", some content =>
      (content.list? (Document.list? Document.text?)).map .rows
    | "changes", some content => content.word?.map .changes
    | "error", some content => content.text?.map .error
    | _, _ => .error .malformed

end Output

namespace FaultKind

/-- The names of all kinds. -/
def names : List String := ["crash", "timeout", "resource-exhausted"]

/-- Decode a kind of fault: its name, alone or around a null. -/
def decode : Document → Decoded FaultKind :=
  Document.variant? names fun name content =>
    match content, ofName? name with
    | none, some kind => .ok kind
    | some .null, some kind => .ok kind
    | _, _ => .error .malformed

end FaultKind

namespace Fault

/-- The JSON value of a fault. -/
def toJson (fault : Fault) : Json :=
  .object [("kind", .string fault.kind.name), ("detail", .string fault.detail)]

/-- Decode a fault. -/
def decode (document : Document) : Decoded Fault := do
  let fields ← document.fields? ["kind", "detail"]
  let (kind, detail) ← fields.fold (fun (kind, detail) name value =>
    match name with
    | "kind" => return (← Document.once FaultKind.decode kind value, detail)
    | "detail" => return (kind, ← Document.once Document.text? detail value)
    | _ => return (kind, detail)) (none, none)
  return ⟨← fields.require "kind" kind, ← fields.require "detail" detail⟩

end Fault

namespace Outcome

/-- The JSON value of an outcome. -/
def toJson : Outcome → Json
  | .completed output => .object [("completed", output.toJson)]
  | .faulted fault => .object [("fault", fault.toJson)]

/-- Decode an outcome. -/
def decode : Document → Decoded Outcome :=
  Document.variant? ["completed", "fault"] fun name content =>
    match name, content with
    | "completed", some content => (Output.decode content).map .completed
    | "fault", some content => (Fault.decode content).map .faulted
    | _, _ => .error .malformed

/-- The outcome that a text denotes. -/
def ofText (text : String) : Decoded Outcome := Document.decodeText decode text

end Outcome
end Crosscheck
