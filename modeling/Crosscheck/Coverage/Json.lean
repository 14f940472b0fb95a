import Crosscheck.Coverage.Snapshot
import Crosscheck.Json.Decode
import Crosscheck.Json.Value

/-!
# Snapshots as JSON

A snapshot is a record of its counters.
-/

namespace Crosscheck.CoverageSnapshot

open Json (Document Decoded)

/-- The JSON value of a snapshot. -/
def toJson (snapshot : CoverageSnapshot) : Json :=
  .object [("counts", .array (snapshot.counts.toList.map fun count => .number count.toNat))]

/-- Decode a snapshot. -/
def decode (document : Document) : Decoded CoverageSnapshot := do
  let fields ← document.fields? ["counts"]
  let counts ← fields.fold (fun counts name value =>
    match name with
    | "counts" => Document.once (Document.list? Document.octet?) counts value
    | _ => return counts) none
  return ⟨(← fields.require "counts" counts).toArray⟩

/-- The snapshot that a text denotes. -/
def ofText (text : String) : Decoded CoverageSnapshot := Document.decodeText decode text

end Crosscheck.CoverageSnapshot
