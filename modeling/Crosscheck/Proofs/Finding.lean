import Mathlib
import Crosscheck.Finding
import Crosscheck.Proofs.Outcome.RoundTrip

/-!
# What the text of a finding tells

All that a finding holds can be told from its text, but for the input, of which only the
lossy reading is shown: each part is told from its JSON value, and a JSON value from its
text. No two members of a finding have the same name, so none of them hides another.
-/

namespace Crosscheck

open Json

theorem Json.texts_injective : Function.Injective Json.texts := by
  intro left right same
  rw [texts, texts, Json.array.injEq] at same
  exact List.map_injective_iff.mpr (fun _ _ => Json.string.inj) same

theorem FaultKind.name_injective : Function.Injective FaultKind.name := by
  intro left right same
  have decoded := left.decode_document
  rw [same, right.decode_document, Except.ok.injEq] at decoded
  exact decoded.symm

theorem VersionOutcome.toJson_injective : Function.Injective VersionOutcome.toJson := by
  rintro ⟨version, outcome, coveredEdges, millis⟩ ⟨version', outcome', coveredEdges', millis'⟩ same
  simp only [toJson, Json.object.injEq, List.cons.injEq, Prod.mk.injEq, Json.string.injEq,
    Json.number.injEq, true_and, and_true] at same
  obtain ⟨rfl, outcomes, rfl, rfl⟩ := same
  rw [Outcome.toJson_injective outcomes]

namespace Verdict

/-- A verdict is told from its members: its name tells the kind, and the rest what it says. -/
theorem members_injective : Function.Injective Verdict.members := by
  intro left right same
  cases left <;> cases right <;>
    simp only [members, name, List.cons.injEq, Prod.mk.injEq, Json.string.injEq, true_and,
      and_true, String.reduceEq, false_and, reduceCtorEq] at same ⊢
  · rw [Json.texts_injective same]
  · rw [Json.texts_injective same]
  · rw [FaultKind.name_injective same]
  · rw [same]

end Verdict

namespace Finding

/-- The members of a finding. -/
def members (finding : Finding) : List (String × Json) :=
  [("input", .string (Text.Utf8.lossyString finding.input)),
    ("input_hash", .string finding.inputHash),
    ("outcomes", .array (finding.outcomes.map VersionOutcome.toJson))]
  ++ finding.verdict.members

theorem toJson_eq (finding : Finding) : finding.toJson = .object finding.members := rfl

/-- No member of a finding hides another, whatever the verdict. -/
theorem nodup_names (finding : Finding) : (finding.members.map Prod.fst).Nodup := by
  cases verdict : finding.verdict <;> simp [members, Verdict.members, verdict]

/-- Two findings have the same text if all is the same but what their inputs lose when they
are read as text. -/
theorem compact_eq_iff {left right : Finding} :
    left.toJson.compact = right.toJson.compact ↔
      Text.Utf8.lossyString left.input = Text.Utf8.lossyString right.input ∧
      left.inputHash = right.inputHash ∧ left.outcomes = right.outcomes ∧
      left.verdict = right.verdict := by
  have listed : left.outcomes.map VersionOutcome.toJson =
      right.outcomes.map VersionOutcome.toJson ↔ left.outcomes = right.outcomes :=
    (List.map_injective_iff.mpr VersionOutcome.toJson_injective).eq_iff
  rw [compact_injective.eq_iff, toJson_eq, toJson_eq, Json.object.injEq, members, members]
  simp only [List.cons_append, List.nil_append, List.cons.injEq, Prod.mk.injEq, true_and,
    Json.string.injEq, Json.array.injEq, listed, Verdict.members_injective.eq_iff]

/-- A finding takes one line. -/
theorem newline_notMem_print (finding : Finding) : '\n' ∉ finding.toJson.print :=
  fun member => not_isControl_of_mem_print member (by decide)

end Finding

end Crosscheck
