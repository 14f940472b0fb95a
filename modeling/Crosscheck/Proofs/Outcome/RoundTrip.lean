import Mathlib
import Crosscheck.Coverage.Json
import Crosscheck.Outcome.Json
import Crosscheck.Proofs.Json.Decode

/-!
# Outcomes and snapshots that come back from their text

Each kind of value is decoded from its own document, from the inside out: outputs, kinds of
fault, faults, and the outcomes around them. Reading a text adds nothing to that, so an
outcome and a snapshot come back from their text, and no two share a text.
-/

namespace Crosscheck

open Json

theorem Output.decode_document (output : Output) :
    Output.decode output.toJson.document = .ok output := by
  cases output with
  | rows rows =>
      have listed : (Json.array (rows.map Json.texts)).document.list?
          (Document.list? Document.text?) = .ok rows :=
        Document.list?_document fun row _ => Document.list?_texts row
      rw [toJson, document_object, List.map_singleton, decode]
      simp [Document.variant?, listed]
  | changes count =>
      rw [toJson, document_object, List.map_singleton, decode]
      simp [Document.variant?]
  | error text =>
      rw [toJson, document_object, List.map_singleton, decode]
      simp [Document.variant?]

theorem FaultKind.decode_document (kind : FaultKind) :
    FaultKind.decode (Json.string kind.name).document = .ok kind := by
  cases kind <;> rfl

theorem Fault.decode_document (fault : Fault) :
    Fault.decode fault.toJson.document = .ok fault := by
  rw [toJson, document_object, decode]
  simp [FaultKind.decode_document]

namespace Outcome

theorem decode_document (outcome : Outcome) :
    Outcome.decode outcome.toJson.document = .ok outcome := by
  cases outcome with
  | completed output =>
      rw [toJson, document_object, List.map_singleton, decode]
      simp [Document.variant?, Output.decode_document]
  | faulted fault =>
      rw [toJson, document_object, List.map_singleton, decode]
      simp [Document.variant?, Fault.decode_document]

/-- An outcome comes back from its text. -/
theorem ofText_compact (outcome : Outcome) : ofText outcome.toJson.compact = .ok outcome := by
  rw [ofText, Document.decodeText_compact, decode_document]

theorem toJson_injective : Function.Injective toJson := by
  intro left right same
  have decoded := left.decode_document
  rw [same, right.decode_document, Except.ok.injEq] at decoded
  exact decoded.symm

end Outcome

namespace CoverageSnapshot

theorem decode_document (snapshot : CoverageSnapshot) :
    CoverageSnapshot.decode snapshot.toJson.document = .ok snapshot := by
  rw [toJson, document_object, List.map_singleton, decode]
  simp

/-- A snapshot comes back from its text. -/
theorem ofText_compact (snapshot : CoverageSnapshot) :
    ofText snapshot.toJson.compact = .ok snapshot := by
  rw [ofText, Document.decodeText_compact, decode_document]

end CoverageSnapshot

/-- Outcomes and snapshots come back from their text, so no two of them share one. -/
theorem recovered_from_text :
    (∀ outcome : Outcome, Outcome.ofText outcome.toJson.compact = .ok outcome) ∧
    (∀ snapshot : CoverageSnapshot,
      CoverageSnapshot.ofText snapshot.toJson.compact = .ok snapshot) ∧
    Function.Injective (fun outcome : Outcome => outcome.toJson.compact) ∧
    Function.Injective (fun snapshot : CoverageSnapshot => snapshot.toJson.compact) := by
  refine ⟨Outcome.ofText_compact, CoverageSnapshot.ofText_compact, ?_, ?_⟩
  · intro left right same
    have read := congrArg Outcome.ofText same
    rwa [Outcome.ofText_compact, Outcome.ofText_compact, Except.ok.injEq] at read
  · intro left right same
    have read := congrArg CoverageSnapshot.ofText same
    rwa [CoverageSnapshot.ofText_compact, CoverageSnapshot.ofText_compact, Except.ok.injEq]
      at read

end Crosscheck
