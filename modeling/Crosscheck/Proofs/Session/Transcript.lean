import Mathlib
import Crosscheck.Session.Transcript

/-!
# What a transcript amounts to

A line is divided at the first place where the separator stands, and what follows is divided
likewise. `Divides` says this of a line and its cells, and `divides_iff` that the scan, which
keeps what is open and skips what belongs to a separator, finds these cells and no others. That no
character of a line is lost is then a matter of the division alone.
-/

namespace Crosscheck.Transcript

variable {separator line cell rest latest : List Char} {parts others : List (List Char)}

/-- The separator stands after a text and nowhere before, not even with its start in the text
and its end after it. -/
def Meets (separator cell : List Char) : Prop :=
  ∀ before after, cell ++ separator = before ++ separator ++ after → after = []

/-- The cells into which a separator divides a line from left to right. -/
inductive Divides (separator : List Char) : List Char → List (List Char) → Prop where
  | last {cell : List Char} (clear : ¬separator <:+: cell) : Divides separator cell [cell]
  | cons {cell rest : List Char} {parts : List (List Char)} (meets : Meets separator cell)
      (later : Divides separator rest parts) :
      Divides separator (cell ++ separator ++ rest) (cell :: parts)

theorem Meets.not_infix (nonempty : separator ≠ []) (meets : Meets separator cell) :
    ¬separator <:+: cell := by
  rintro ⟨before, after, rfl⟩
  have finished := meets before (after ++ separator) (by simp)
  exact nonempty (List.append_eq_nil_iff.mp finished).2

/-- Two places where the separator stands first are one. -/
theorem Meets.eq {other later : List Char} (meets : Meets separator cell)
    (again : Meets separator other)
    (same : cell ++ separator ++ rest = other ++ separator ++ later) : cell = other := by
  obtain within | within := List.prefix_or_prefix_of_prefix ⟨rest, same⟩ ⟨later, rfl⟩
  · obtain ⟨after, continued⟩ := within
    rw [again cell after continued.symm, List.append_nil] at continued
    exact List.append_cancel_right continued
  · obtain ⟨after, continued⟩ := within
    rw [meets other after continued.symm, List.append_nil] at continued
    exact (List.append_cancel_right continued).symm

namespace Divides

theorem ne_nil (divides : Divides separator line parts) : parts ≠ [] := by
  cases divides <;> simp

/-- The cells with the separator between them are the line. -/
theorem intercalate_eq (divides : Divides separator line parts) :
    separator.intercalate parts = line := by
  induction divides with
  | last clear => exact List.intercalate_singleton
  | cons meets later inductionHypothesis =>
      rw [List.intercalate_cons_of_ne_nil later.ne_nil, inductionHypothesis, List.append_assoc]

/-- The separator stands in no cell. -/
theorem not_infix (nonempty : separator ≠ []) (divides : Divides separator line parts) :
    ∀ cell ∈ parts, ¬separator <:+: cell := by
  induction divides with
  | last clear => simpa using clear
  | cons meets later inductionHypothesis =>
      exact List.forall_mem_cons.mpr ⟨meets.not_infix nonempty, inductionHypothesis⟩

/-- A line is divided in one way only. -/
theorem unique (divides : Divides separator line parts)
    (again : Divides separator line others) : parts = others := by
  induction divides generalizing others with
  | @last cell clear =>
      generalize whole : cell = line at again
      cases again with
      | last => rfl
      | cons meets later => exact absurd ⟨_, _, whole.symm⟩ clear
  | @cons cell rest parts meets later inductionHypothesis =>
      generalize whole : cell ++ separator ++ rest = line at again
      cases again with
      | last clear => exact absurd ⟨_, _, whole⟩ clear
      | cons first further =>
          obtain rfl := meets.eq first whole
          rw [inductionHypothesis (List.append_cancel_left whole ▸ further)]

end Divides

theorem cellsFrom_skip (skip : Nat) :
    cellsFrom separator skip latest line = cellsFrom separator 0 latest (line.drop skip) := by
  induction line generalizing skip with
  | nil => rw [List.drop_nil, cellsFrom, cellsFrom]
  | cons char rest inductionHypothesis =>
      cases skip with
      | zero => rfl
      | succ skip => rw [cellsFrom, inductionHypothesis, List.drop_succ_cons]

/-- Where the separator stands a cell ends, and the next begins after it. -/
theorem cellsFrom_separator (nonempty : separator ≠ []) :
    cellsFrom separator 0 latest (separator ++ rest) =
      latest.reverse :: cellsFrom separator 0 [] rest := by
  obtain ⟨char, tail, whole⟩ := List.exists_cons_of_ne_nil nonempty
  have starts : separator.isPrefixOf (char :: (tail ++ rest)) = true := by
    rw [List.isPrefixOf_iff_prefix, ← List.cons_append, ← whole]
    exact List.prefix_append separator rest
  have skipped : (tail ++ rest).drop (separator.length - 1) = rest := by simp [whole]
  rw [show separator ++ rest = char :: (tail ++ rest) by rw [whole, List.cons_append], cellsFrom,
    if_pos starts, cellsFrom_skip, skipped]

theorem cellsFrom_cons {char : Char} (other : ¬separator <+: char :: rest) :
    cellsFrom separator 0 latest (char :: rest) = cellsFrom separator 0 (char :: latest) rest := by
  rw [cellsFrom, if_neg (mt List.isPrefixOf_iff_prefix.mp other)]

/-- The scan divides what is open and what is left, if no separator starts in what is open. -/
theorem divides_cellsFrom (nonempty : separator ≠ []) (latest line : List Char)
    (clear : ∀ before after, latest.reverse ++ line = before ++ separator ++ after →
      latest.length ≤ before.length) :
    Divides separator (latest.reverse ++ line) (cellsFrom separator 0 latest line) := by
  have positive : 0 < separator.length := List.length_pos_iff.mpr nonempty
  induction size : line.length using Nat.strong_induction_on generalizing latest line with
  | _ size inductionHypothesis =>
      subst size
      cases line with
      | nil =>
          rw [List.append_nil]
          refine .last ?_
          rintro ⟨before, after, stands⟩
          have starts := clear before after (by rw [List.append_nil, stands])
          have lengths := congrArg List.length stands
          simp only [List.length_append, List.length_reverse] at lengths
          omega
      | cons char rest =>
          by_cases starts : separator <+: char :: rest
          · obtain ⟨later, divided⟩ := starts
            have shorter := congrArg List.length divided
            simp only [List.length_append, List.length_cons] at shorter
            rw [← divided, ← List.append_assoc, cellsFrom_separator nonempty]
            refine .cons ?_ ?_
            · intro before after stands
              have reached := clear before (after ++ later)
                (by rw [← divided, ← List.append_assoc, stands, List.append_assoc])
              have lengths := congrArg List.length stands
              simp only [List.length_append, List.length_reverse] at lengths
              exact List.length_eq_zero_iff.mp (by omega)
            · exact inductionHypothesis later.length (by simp only [List.length_cons]; omega) []
                later (fun before _ _ => Nat.zero_le before.length) rfl
          · have moved : latest.reverse ++ char :: rest = (char :: latest).reverse ++ rest := by
              simp
            rw [cellsFrom_cons starts, moved]
            refine inductionHypothesis rest.length (Nat.lt_succ_self _) _ _ ?_ rfl
            intro before after stands
            rw [← moved] at stands
            have reached := clear before after stands
            -- A separator that starts at the character itself is the one that is not there.
            refine Nat.lt_of_le_of_ne reached fun level => starts ?_
            rw [List.append_assoc] at stands
            have after := (List.append_inj stands (by simpa using level)).2
            exact ⟨_, after.symm⟩

/-- The cells of a line are those into which the separator divides it. -/
theorem divides_iff (nonempty : separator ≠ []) :
    Divides separator line parts ↔ cells separator line = parts := by
  have scanned : Divides separator line (cells separator line) := by
    rw [cells, if_neg (by simpa using nonempty)]
    exact divides_cellsFrom nonempty [] line fun before _ _ => Nat.zero_le before.length
  exact ⟨scanned.unique, fun same => same ▸ scanned⟩

theorem lower_ofNat : ∀ code < 91, lower (Char.ofNat code) = (Char.ofNat code).toLower := by decide

theorem lower_eq : lower = Char.toLower := by
  funext char
  by_cases small : char.toNat < 91
  · rw [← Char.ofNat_toNat char, lower_ofNat _ small]
  · have beyond : ¬char ≤ 'Z' := fun capital => small (Nat.lt_succ_of_le capital)
    rw [lower, if_neg (beyond ·.2), Char.toLower, dif_neg (beyond ·.2)]

theorem occurs_iff {part text : List Char} : occurs part text = true ↔ part <:+: text := by
  induction text with
  | nil => simp [occurs]
  | cons char rest inductionHypothesis =>
      rw [occurs, Bool.or_eq_true, inductionHypothesis, List.isPrefixOf_iff_prefix,
        List.infix_cons_iff]

/-- The cells of a line, as texts. -/
structure IsRow (separator line : String) (row : List String) : Prop where
  divides : Divides separator.toList line.toList (row.map String.toList)
  joined : separator.intercalate row = line
  clear : ∀ cell ∈ row, ¬separator.toList <:+: cell.toList

theorem isRow_cells {separator : String} (nonempty : separator ≠ "") (line : String) :
    IsRow separator line ((cells separator.toList line.toList).map String.ofList) := by
  have present : separator.toList ≠ [] := by simpa using nonempty
  have texts : ((cells separator.toList line.toList).map String.ofList).map String.toList =
      cells separator.toList line.toList := by simp [Function.comp_def]
  have divides : Divides separator.toList line.toList (cells separator.toList line.toList) :=
    (divides_iff present).mpr rfl
  refine ⟨texts.symm ▸ divides, ?_, ?_⟩
  · rw [← String.toList_inj, String.toList_intercalate, texts, divides.intercalate_eq]
  · intro cell member
    obtain ⟨chars, found, rfl⟩ := List.mem_map.mp member
    rw [String.toList_ofList]
    exact divides.not_infix present chars found

/-- A message that says that no memory is left, in capitals or not. -/
def Exhausted (message : String) : Prop :=
  "out of memory".toList <:+: message.toLower.toList

theorem exhausted_iff {message : String} :
    occurs exhaustion (message.toList.map lower) = true ↔ Exhausted message := by
  rw [occurs_iff, lower_eq]
  unfold Exhausted exhaustion
  rw [String.toLower, String.toList_map]

section Outcome

variable {separator : String} {transcript : Transcript}

theorem outcome_of_out (silent : transcript.err = []) (written : transcript.out ≠ []) :
    transcript.outcome separator = .completed (.rows (transcript.out.map fun line =>
      (cells separator.toList line.toList).map String.ofList)) := by
  simp only [outcome, silent, List.isEmpty_nil, Bool.not_true, Bool.false_eq_true, if_false,
    List.isEmpty_iff, written]

theorem outcome_of_err (errors : transcript.err ≠ []) :
    transcript.outcome separator =
      if occurs exhaustion (("\n".intercalate transcript.err).toList.map lower) then
        .faulted ⟨.resourceExhausted, "\n".intercalate transcript.err⟩
      else .completed (.error ("\n".intercalate transcript.err)) :=
  if_pos (by simpa using errors)

end Outcome

/-- Nothing that was written is lost in the outcome. Without errors there is a row for each
line, or a count of changes if there is no line; errors stand alone, as an answer or as a fault. -/
theorem outcome_keeps_lines (separator : String) (nonempty : separator ≠ "")
    (transcript : Transcript) :
    (transcript.err = [] → transcript.out ≠ [] →
      ∃ rows, transcript.outcome separator = .completed (.rows rows) ∧
        List.Forall₂ (IsRow separator) transcript.out rows) ∧
    (transcript.err = [] → transcript.out = [] →
      transcript.outcome separator = .completed (.changes transcript.changes)) ∧
    (transcript.err ≠ [] →
      (transcript.outcome separator =
          .faulted ⟨.resourceExhausted, "\n".intercalate transcript.err⟩ ↔
        Exhausted ("\n".intercalate transcript.err)) ∧
      (transcript.outcome separator = .completed (.error ("\n".intercalate transcript.err)) ↔
        ¬Exhausted ("\n".intercalate transcript.err))) := by
  refine ⟨fun silent written => ⟨_, outcome_of_out silent written, ?_⟩, ?_, fun errors => ?_⟩
  · rw [List.forall₂_map_right_iff, List.forall₂_same]
    exact fun line _ => isRow_cells nonempty line
  · intro silent unwritten
    simp [outcome, silent, unwritten]
  · rw [outcome_of_err errors, ← exhausted_iff]
    generalize "\n".intercalate transcript.err = message
    split <;> simp_all

/-- Separators that overlap are taken from the left, and one may stand at the end. -/
theorem outcome_keeps_lines_overlapping :
    ∃ rows, Transcript.outcome "||" { out := ["|||a", "b||"] } = .completed (.rows rows) ∧
      List.Forall₂ (IsRow "||") ["|||a", "b||"] rows ∧ rows = [["", "|a"], ["b", ""]] := by
  obtain ⟨rows, divided, kept⟩ :=
    (outcome_keeps_lines "||" (by decide) { out := ["|||a", "b||"] }).1 rfl (by simp)
  refine ⟨rows, divided, kept, ?_⟩
  have computed : Transcript.outcome "||" { out := ["|||a", "b||"] } =
    .completed (.rows [["", "|a"], ["b", ""]]) := by decide +kernel
  rw [computed] at divided
  cases divided
  rfl

end Crosscheck.Transcript
