import Mathlib
import Crosscheck.Mutation.Pool
import Crosscheck.Statement.Literal
import Crosscheck.Proofs.Statement.RoundTrip

/-!
# The statements of the pool

The statements of the schema and of the pool contain no terminator at all and stand on
their own. Those of the pool have only short literals.
-/

namespace Crosscheck.Mutation

open Statement Text

/-- Whether a statement stands on its own and has no terminator, not even a quoted one. -/
def isPlain (text : List Char) : Bool :=
  text != [] && text.head?.all (!isBlank ·) && text.getLast?.all (!isBlank ·) &&
    !text.contains terminator && Quoting.outside.after text == .outside

section Plain

variable {text : List Char}

theorem not_mem_of_isPlain (plain : isPlain text = true) : terminator ∉ text := by
  simp only [isPlain, Bool.and_eq_true] at plain
  simpa using plain.1.2

theorem standalone_of_isPlain (plain : isPlain text = true) : Standalone text := by
  have none := not_mem_of_isPlain plain
  simp only [isPlain, Bool.and_eq_true] at plain
  obtain ⟨⟨⟨⟨nonempty, first⟩, last⟩, _⟩, closed⟩ := plain
  have trimmed : Trimmed text := by
    constructor
    · intro char head
      simpa [head] using first
    · intro char ends
      simpa [ends] using last
  exact ⟨.of_ne_nil (by simpa using nonempty) trimmed (not_hasBare_of_not_mem none),
    by simpa using closed⟩

end Plain

/-- A literal is taken by its characters, since a proof term that decodes it is costly. -/
theorem forall_mem_cons_ofList (check : List Char → Bool) {text : List Char} {rest : List String}
    (first : check text = true) (others : ∀ statement ∈ rest, check statement.toList = true) :
    ∀ statement ∈ String.ofList text :: rest, check statement.toList = true := by
  simpa using ⟨first, others⟩

theorem isPlain_pool : ∀ statement ∈ pool, isPlain statement.toList = true := by
  unfold pool
  repeat' first
    | exact List.forall_mem_nil _
    | refine forall_mem_cons_ofList isPlain (by decide +kernel) ?_

theorem isPlain_schema : ∀ statement ∈ schema, isPlain statement.toList = true := by
  unfold schema
  repeat' first
    | exact List.forall_mem_nil _
    | refine forall_mem_cons_ofList isPlain (by decide +kernel) ?_

/-- Whether the literals of a statement have no more than 20 digits. -/
def isShort (text : List Char) : Bool :=
  (literals text).all fun literal => literal.digits.length ≤ 20

theorem isShort_pool : ∀ statement ∈ pool, isShort statement.toList = true := by
  unfold pool
  repeat' first
    | exact List.forall_mem_nil _
    | refine forall_mem_cons_ofList isShort (by decide +kernel) ?_

end Crosscheck.Mutation
