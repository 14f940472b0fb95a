import Crosscheck.Corpus
import Crosscheck.Json.Decode
import Crosscheck.Json.Value

/-!
# Corpora as JSON

A corpus is exported as the list of its entries, the octets of an input as numbers.
The kind of a source is a member beside its content, or the first item of an array.
-/

namespace Crosscheck

open Json (Document Decoded)

namespace Source

/-- The JSON value of a source. -/
def toJson : Source → Json
  | .seed => .object [("kind", .string "seed")]
  | .mutated parent => .object [("kind", .string "mutated"), ("parent", .number parent)]
  | .synthesized => .object [("kind", .string "synthesized")]

/-- The names of all kinds. -/
def kinds : List String := ["seed", "mutated", "synthesized"]

/-- How deep a member may nest that is stored until the kind is known. -/
def storableDepth : Nat := 123

/-- Decode the name of a kind. -/
def decodeKind (document : Document) : Decoded String := do
  let name ← document.text?
  if kinds.contains name then .ok name else .error (.unknownVariant name kinds)

/-- Keep a document until the kind is known. -/
def store (document : Document) : Decoded Document :=
  if document.isStorable storableDepth then .ok document else .error .malformed

/-- Decode a source of a kind from the other members. -/
def ofMembers (kind : String) (members : List (String × Document)) : Decoded Source :=
  match kind with
  | "seed" => .ok .seed
  | "synthesized" => .ok .synthesized
  | _ => do
    let parent ← members.foldlM (fun parent (name, value) =>
      if name = "parent" then Document.once (Document.natural? UInt64.size) parent value
      else .ok parent) none
    match parent with
    | some parent => return .mutated parent
    | none => .error (.missingField "parent")

/-- Decode a source of a kind from the other items. -/
def ofItems (kind : String) (items : List Document) : Decoded Source :=
  match kind, items with
  | "seed", [] => .ok .seed
  | "synthesized", [] => .ok .synthesized
  | "mutated", [parent] => (parent.natural? UInt64.size).map .mutated
  | _, _ => .error .malformed

/-- Take the members in order: the kind is decoded as it is met, the others are stored. -/
def splitKind (members : List (Option String × Document)) :
    Decoded (Option String × List (String × Document)) :=
  members.foldlM (fun (kind, others) (name, value) =>
    match name with
    | none => .error .malformed
    | some "kind" => return (← Document.once decodeKind kind value, others)
    | some name => return (kind, others ++ [(name, ← store value)])) (none, [])

/-- Decode a source. -/
def decode : Document → Decoded Source
  | .object members closed => do
    let (kind, others) ← splitKind members
    if !closed then .error .malformed
    else
      match kind with
      | some kind => ofMembers kind others
      | none => .error (.missingField "kind")
  | .array [] true => .error (.missingField "kind")
  | .array (first :: rest) closed => do
    let kind ← decodeKind first
    let rest ← rest.mapM store
    if closed then ofItems kind rest else .error .malformed
  | _ => .error .malformed

end Source

namespace Metadata

/-- The JSON value of metadata. -/
def toJson (metadata : Metadata) : Json :=
  .object [("source", metadata.source.toJson), ("found-at", .number metadata.foundAt),
    ("novel-edges", .number metadata.novelEdges),
    ("novel-versions", Json.texts metadata.novelVersions),
    ("covered-edges", .number metadata.coveredEdges), ("signature", .string metadata.signature),
    ("selections", .number metadata.selections)]

/-- Metadata before all of it is known. -/
structure Partial where
  source : Option Source := none
  foundAt : Option Nat := none
  novelEdges : Option Nat := none
  novelVersions : Option (List String) := none
  coveredEdges : Option Nat := none
  signature : Option String := none
  selections : Option Nat := none

/-- Decode a number of 64 bits. -/
def decodeCount : Document → Decoded Nat := Document.natural? UInt64.size

/-- Take one member. -/
def Partial.step (found : Partial) (name : String) (value : Document) : Decoded Partial := do
  match name with
  | "source" => return { found with source := ← Document.once Source.decode found.source value }
  | "found-at" => return { found with foundAt := ← Document.once decodeCount found.foundAt value }
  | "novel-edges" =>
    return { found with novelEdges := ← Document.once decodeCount found.novelEdges value }
  | "novel-versions" =>
    return { found with
      novelVersions := ← Document.once (Document.list? Document.text?) found.novelVersions value }
  | "covered-edges" =>
    return { found with coveredEdges := ← Document.once decodeCount found.coveredEdges value }
  | "signature" =>
    return { found with signature := ← Document.once Document.text? found.signature value }
  | "selections" =>
    return { found with selections := ← Document.once decodeCount found.selections value }
  | _ => return found

/-- Decode metadata. The count of selections may be missing. -/
def decode (document : Document) : Decoded Metadata := do
  let fields ← document.fields? ["source", "found-at", "novel-edges", "novel-versions",
    "covered-edges", "signature", "selections"]
  let found ← fields.fold Partial.step {}
  return {
    source := ← fields.require "source" found.source
    foundAt := ← fields.require "found-at" found.foundAt
    novelEdges := ← fields.require "novel-edges" found.novelEdges
    novelVersions := ← fields.require "novel-versions" found.novelVersions
    coveredEdges := ← fields.require "covered-edges" found.coveredEdges
    signature := ← fields.require "signature" found.signature
    selections := found.selections.getD 0 }

end Metadata

namespace Entry

/-- The JSON value of an entry. -/
def toJson (entry : Entry) : Json :=
  .object [("id", .number entry.id),
    ("input", .array (entry.input.map fun octet => .number octet.toNat)),
    ("metadata", entry.metadata.toJson)]

/-- Decode an entry. -/
def decode (document : Document) : Decoded Entry := do
  let fields ← document.fields? ["id", "input", "metadata"]
  let (id, input, metadata) ← fields.fold (fun (id, input, metadata) name value =>
    match name with
    | "id" => return (← Document.once Metadata.decodeCount id value, input, metadata)
    | "input" =>
      return (id, ← Document.once (Document.list? Document.octet?) input value, metadata)
    | "metadata" => return (id, input, ← Document.once Metadata.decode metadata value)
    | _ => return (id, input, metadata)) (none, none, none)
  return ⟨← fields.require "id" id, ← fields.require "input" input,
    ← fields.require "metadata" metadata⟩

/-- The JSON value of a list of entries. -/
def listToJson (entries : List Entry) : Json := .array (entries.map toJson)

/-- The entries that a text denotes. -/
def listOfText (text : String) : Decoded (List Entry) :=
  Document.decodeText (Document.list? decode) text

end Entry

namespace Corpus

/-- The text of all entries. -/
def exportText (corpus : Corpus) : String := (Entry.listToJson corpus.entries.toList).compact

/-- The corpus of the entries that a text denotes. -/
def importText (text : String) : Decoded Corpus := (Entry.listOfText text).map ofEntries

end Corpus
end Crosscheck
