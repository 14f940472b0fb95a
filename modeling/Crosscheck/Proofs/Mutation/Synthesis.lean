import Mathlib
import Crosscheck.Proofs.Mutation.Statements

/-!
# What is synthesized

A synthesized input is the schema and then pool statements, cut at the limit. The number of pool
statements has a range to be drawn from under every limit, and is one even where the schema
leaves no room: a limit of one or two then cuts into what was put together. No statement has a
terminator, so the input is read as the statements that it was joined from.
-/

namespace Crosscheck.StatementMutator

open Mutation Statement Crosscheck.Random

/-- What may be synthesized under a limit. -/
structure Synthesized (limit : Nat) (statements : List String) : Prop where
  bounded : statements.length ≤ limit
  /-- The schema comes first, as far as the limit allows. -/
  begins : statements.take (min 2 limit) = schema.take (min 2 limit)
  continues : ∀ statement ∈ statements.drop (min 2 limit), statement ∈ pool
  /-- Where there is room for more than the schema there is more, by at most eight statements. -/
  several : 3 ≤ limit → 3 ≤ statements.length ∧ statements.length ≤ min limit 10

/-- The most pool statements that are drawn under a limit: what the schema leaves of it, but at
least one and at most eight. -/
def mostDrawn (limit : Nat) : Nat := min (max (limit - 2) 1) 8

/-- So there is a number to draw under every limit. -/
theorem mostDrawn_pos (limit : Nat) : 1 ≤ mostDrawn limit := by
  unfold mostDrawn
  omega

section Cut

variable {limit : Nat} {drawn : List String}

theorem length_schema : schema.length = 2 := rfl

theorem length_take_schema_append (limit : Nat) (drawn : List String) :
    ((schema ++ drawn).take limit).length = min limit (2 + drawn.length) := by
  rw [List.length_take, List.length_append, length_schema]

/-- With no more pool statements than may be drawn, the cut falls into the schema, right behind
it, or nowhere. -/
theorem synthesized_take (positive : 0 < limit) (some : 1 ≤ drawn.length)
    (few : drawn.length ≤ mostDrawn limit) (listed : ∀ statement ∈ drawn, statement ∈ pool) :
    Synthesized limit ((schema ++ drawn).take limit) where
  bounded := List.length_take_le _ _
  begins := by
    rw [List.take_take, min_assoc, min_self]
    exact List.take_append_of_le_length (min_le_left 2 limit)
  continues := by
    intro statement member
    rw [List.drop_take] at member
    by_cases single : limit = 1
    · -- The cut leaves nothing behind the one statement of the schema.
      subst single
      simp at member
    · have whole : min 2 limit = schema.length := by
        rw [length_schema]
        omega
      rw [whole, List.drop_left] at member
      exact listed statement (List.mem_of_mem_take member)
  several := by
    intro roomy
    rw [length_take_schema_append]
    unfold mostDrawn at few
    omega

end Cut

/-- The statements that are synthesized stand on their own. -/
theorem Synthesized.standalone {limit : Nat} {statements : List String}
    (synthesized : Synthesized limit statements) :
    ∀ statement ∈ statements, Standalone statement.toList := by
  intro statement member
  rw [← List.take_append_drop (min 2 limit) statements, List.mem_append] at member
  rcases member with first | later
  · rw [synthesized.begins] at first
    exact standalone_of_isPlain (isPlain_schema _ (List.mem_of_mem_take first))
  · exact standalone_of_isPlain (isPlain_pool _ (synthesized.continues _ later))

section Run

variable {σ : Type} [RandomSource σ]

/-- Each draw from the pool yields a statement, since the pool is not empty. -/
theorem always_drawPool (count : Nat) :
    Always (drawPool count : StateM σ (List String)) fun drawn =>
      drawn.length = count ∧ ∀ statement ∈ drawn, statement ∈ pool := by
  induction count with
  | zero => exact .pure (by simp)
  | succ count inductionHypothesis =>
      refine .bind (always_choose pool) fun first found => ?_
      rcases found with ⟨none, _⟩ | ⟨chosen, listed, rfl⟩
      · cases none
      · refine .bind inductionHypothesis fun others drawn => .pure ⟨?_, ?_⟩
        · rw [Option.toList_some, List.length_append, List.length_singleton, drawn.1]
          exact Nat.add_comm 1 count
        · rw [Option.toList_some, List.singleton_append, List.forall_mem_cons]
          exact ⟨listed, drawn.2⟩

/-- A run draws the number of pool statements, as many of them, and cuts at the limit. -/
theorem exists_run_synthesize (mutator : StatementMutator) (state : σ) :
    ∃ count middle drawn after,
      (between 1 (mostDrawn mutator.limit)).run state = (count, middle) ∧
      count ∈ Finset.Icc 1 (mostDrawn mutator.limit) ∧
      drawn.length = count ∧ (∀ statement ∈ drawn, statement ∈ pool) ∧
      mutator.synthesize.run state = ((schema ++ drawn).take mutator.limit, after) := by
  have counted := always_between (σ := σ) (mostDrawn_pos mutator.limit) state
  rcases ran : (between 1 (mostDrawn mutator.limit)).run state with ⟨count, middle⟩
  have listed := always_drawPool count middle
  rcases drew : (drawPool count).run middle with ⟨drawn, after⟩
  rw [ran] at counted
  rw [drew] at listed
  refine ⟨count, middle, drawn, after, rfl, Finset.mem_Icc.mpr counted, listed.1, listed.2, ?_⟩
  exact (run_bind_of_run ran).trans (run_bind_of_run drew)

/-- Under every limit and with every source there is a number of pool statements to draw, and the
input that is synthesized has so many of them behind the schema, as far as the limit allows. It
is the input of a mutation without a base, and comes back from its octets as those statements. -/
theorem synthesize_intact (overflow : Overflow) (limit : Nat) (corpus : Option Corpus) (state : σ) :
    ∃ count middle statements after,
      (between 1 (mostDrawn (max 1 limit))).run state = (count, middle) ∧
      count ∈ Finset.Icc 1 (mostDrawn (max 1 limit)) ∧
      (ofLimit overflow limit).synthesize.run state = (statements, after) ∧
      statements.length = min (max 1 limit) (2 + count) ∧
      Synthesized (max 1 limit) statements ∧
      ((ofLimit overflow limit).mutate none corpus).run state = (.ok (join statements), after) ∧
      split (join statements) = statements := by
  obtain ⟨count, middle, drawn, after, counted, inRange, length, listed, ran⟩ :=
    exists_run_synthesize (ofLimit overflow limit) state
  have within := Finset.mem_Icc.mp inRange
  have synthesized := synthesized_take (ofLimit overflow limit).positive (length ▸ within.1)
    (length ▸ within.2) listed
  have size := length_take_schema_append (ofLimit overflow limit).limit drawn
  rw [limit_ofLimit] at counted inRange ran synthesized size
  rw [length] at size
  exact ⟨count, middle, _, after, counted, inRange, ran, size, synthesized, run_mutate_none ran,
    (split_join_eq_iff _).mpr synthesized.standalone⟩

end Run
end Crosscheck.StatementMutator
