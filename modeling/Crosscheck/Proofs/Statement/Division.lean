import Mathlib
import Crosscheck.Statement
import Crosscheck.Proofs.Text.Blank

/-!
# How a text divides into statements

A terminator is bare where the scan of its text stands outside quotes. `Divided` says
what the pieces of a text are without a scan in progress: the text up to its first bare
terminator, then the pieces of the rest. `divided_iff` holds the scan to it, and all else
about splitting is shown by induction on `Divided`.
-/

namespace Crosscheck

namespace Quoting

@[simp] theorem after_nil (quoting : Quoting) : quoting.after [] = quoting := rfl

@[simp] theorem after_cons (quoting : Quoting) (char : Char) (text : List Char) :
    quoting.after (char :: text) = (quoting.next char).after text := rfl

@[simp] theorem after_append (quoting : Quoting) (left right : List Char) :
    quoting.after (left ++ right) = (quoting.after left).after right :=
  List.foldl_append

theorem next_outside {char : Char} (plain : isMark char = false) :
    outside.next char = .outside := by
  simp [next, plain]

/-- Only a mark opens a quoted part. -/
def Proper (quoting : Quoting) : Prop := ∀ mark, quoting = .inside mark → isMark mark = true

theorem proper_outside : Proper .outside := nofun

theorem Proper.next {quoting : Quoting} (proper : quoting.Proper) (char : Char) :
    (quoting.next char).Proper := by
  intro mark opened
  cases quoting with
  | outside =>
      simp only [Quoting.next] at opened
      split at opened
      next marks =>
        cases opened
        exact marks
      next => cases opened
  | inside current =>
      simp only [Quoting.next] at opened
      split at opened
      · cases opened
      · exact proper mark opened

theorem Proper.after {quoting : Quoting} (proper : quoting.Proper) (text : List Char) :
    (quoting.after text).Proper := by
  induction text generalizing quoting with
  | nil => exact proper
  | cons char rest inductionHypothesis => exact inductionHypothesis (proper.next char)

theorem isMark_of_isBlank {char : Char} (blank : Text.isBlank char = true) :
    isMark char = false := by
  unfold isMark
  by_contra marks
  rw [Bool.not_eq_false, Bool.or_eq_true, beq_iff_eq, beq_iff_eq] at marks
  rcases marks with rfl | rfl <;> exact absurd blank (by decide)

/-- Blanks neither open nor close a quoted part. -/
theorem Proper.after_of_blank {quoting : Quoting} (proper : quoting.Proper) {text : List Char}
    (blank : ∀ char ∈ text, Text.isBlank char = true) : quoting.after text = quoting := by
  induction text with
  | nil => rfl
  | cons char rest inductionHypothesis =>
      have plain := isMark_of_isBlank (blank char List.mem_cons_self)
      have same : quoting.next char = quoting := by
        cases quoting with
        | outside => exact next_outside plain
        | inside mark =>
            have differ : char ≠ mark := by
              rintro rfl
              simp [proper char rfl] at plain
            simp [Quoting.next, differ]
      rw [after_cons, same]
      exact inductionHypothesis fun other member => blank other (List.mem_cons_of_mem _ member)

end Quoting

namespace Statement

/-- A text has a terminator where its scan, begun with the given state, is outside quotes. -/
def HasBare (quoting : Quoting) (text : List Char) : Prop :=
  ∃ before after, text = before ++ terminator :: after ∧ quoting.after before = .outside

section Bare

variable {quoting : Quoting}

@[simp] theorem not_hasBare_nil : ¬HasBare quoting [] := by
  rintro ⟨before, after, split, _⟩
  simp at split

theorem hasBare_cons {char : Char} {text : List Char} :
    HasBare quoting (char :: text) ↔
      (quoting = .outside ∧ char = terminator) ∨ HasBare (quoting.next char) text := by
  constructor
  · rintro ⟨before, after, split, closed⟩
    cases before with
    | nil =>
        cases split
        exact .inl ⟨closed, rfl⟩
    | cons head before =>
        cases split
        exact .inr ⟨before, after, rfl, closed⟩
  · rintro (⟨rfl, rfl⟩ | ⟨before, after, rfl, closed⟩)
    · exact ⟨[], text, rfl, rfl⟩
    · exact ⟨char :: before, after, rfl, closed⟩

theorem hasBare_append {left right : List Char} :
    HasBare quoting (left ++ right) ↔
      HasBare quoting left ∨ HasBare (quoting.after left) right := by
  induction left generalizing quoting with
  | nil => simp
  | cons char rest inductionHypothesis =>
      rw [List.cons_append, hasBare_cons, hasBare_cons, inductionHypothesis, or_assoc,
        Quoting.after_cons]

/-- A text without any terminator has no bare one. -/
theorem not_hasBare_of_not_mem {text : List Char} (none : terminator ∉ text) :
    ¬HasBare quoting text := by
  rintro ⟨before, after, rfl, _⟩
  simp at none

/-- A text with a bare terminator has a first one. -/
theorem HasBare.exists_first {text : List Char} (bare : HasBare quoting text) :
    ∃ before after, text = before ++ terminator :: after ∧ quoting.after before = .outside ∧
      ¬HasBare quoting before := by
  induction text generalizing quoting with
  | nil => exact absurd bare not_hasBare_nil
  | cons char rest inductionHypothesis =>
      by_cases ends : quoting = .outside ∧ char = terminator
      · obtain ⟨rfl, rfl⟩ := ends
        exact ⟨[], rest, rfl, rfl, not_hasBare_nil⟩
      · obtain ⟨before, after, rfl, closed, whole⟩ :=
          inductionHypothesis ((hasBare_cons.mp bare).resolve_left ends)
        refine ⟨char :: before, after, rfl, closed, ?_⟩
        rw [hasBare_cons]
        exact fun found => found.elim ends whole

end Bare

/-- The pieces between the bare terminators of a text. -/
inductive Divided : List Char → List (List Char) → Prop where
  | last {text} (whole : ¬HasBare .outside text) : Divided text [text]
  | cut {piece rest pieces} (whole : ¬HasBare .outside piece)
      (closed : Quoting.outside.after piece = .outside) (divided : Divided rest pieces) :
      Divided (piece ++ terminator :: rest) (piece :: pieces)

theorem exists_divided (text : List Char) : ∃ pieces, Divided text pieces := by
  induction size : text.length using Nat.strong_induction_on generalizing text with
  | _ size inductionHypothesis =>
      by_cases bare : HasBare .outside text
      · obtain ⟨piece, rest, rfl, closed, whole⟩ := bare.exists_first
        obtain ⟨pieces, divided⟩ :=
          inductionHypothesis rest.length (by simp at size; omega) rest rfl
        exact ⟨piece :: pieces, .cut whole closed divided⟩
      · exact ⟨[text], .last bare⟩

namespace Cut

/-- A cut with pieces that were finished before it began. -/
def onto (cut : Cut) (earlier : List (List Char)) : Cut :=
  { cut with finished := cut.finished ++ earlier }

theorem pieces_onto (cut : Cut) (earlier : List (List Char)) :
    (cut.onto earlier).pieces = earlier.reverse ++ cut.pieces := by
  simp [onto, pieces]

/-- What was finished before is left alone. -/
theorem foldl_next_onto (cut : Cut) (earlier : List (List Char)) (text : List Char) :
    text.foldl next (cut.onto earlier) = (text.foldl next cut).onto earlier := by
  induction text generalizing cut with
  | nil => rfl
  | cons char rest inductionHypothesis =>
      have step : (cut.onto earlier).next char = (cut.next char).onto earlier := by
        unfold next onto
        dsimp only
        split <;> rfl
      rw [List.foldl_cons, List.foldl_cons, step, inductionHypothesis]

/-- A text without a bare terminator only extends the open piece. -/
theorem foldl_next_of_whole (cut : Cut) {text : List Char} (whole : ¬HasBare cut.quoting text) :
    text.foldl next cut =
      ⟨cut.finished, text.reverse ++ cut.current, cut.quoting.after text⟩ := by
  induction text generalizing cut with
  | nil => rfl
  | cons char rest inductionHypothesis =>
      rw [hasBare_cons, not_or] at whole
      have step : cut.next char = ⟨cut.finished, char :: cut.current, cut.quoting.next char⟩ := by
        rw [next, if_neg whole.1]
      rw [List.foldl_cons, step, inductionHypothesis _ whole.2]
      simp

end Cut

theorem Divided.pieces_eq {text : List Char} {parts : List (List Char)}
    (divided : Divided text parts) : pieces text = parts := by
  induction divided with
  | last whole =>
      rw [pieces, Cut.foldl_next_of_whole Cut.start whole]
      simp [Cut.pieces, Cut.start]
  | @cut piece rest parts whole closed _ inductionHypothesis =>
      have ended : (piece.foldl Cut.next Cut.start).next terminator = Cut.start.onto [piece] := by
        rw [Cut.foldl_next_of_whole Cut.start whole, Cut.next,
          if_pos ⟨by simpa [Cut.start] using closed, rfl⟩]
        simp [Cut.start, Cut.onto, closed]
      rw [pieces, List.foldl_append, List.foldl_cons, ended, Cut.foldl_next_onto,
        Cut.pieces_onto, ← pieces, inductionHypothesis]
      rfl

/-- Scanning a text finds just the pieces that it divides into. -/
theorem divided_iff {text : List Char} {parts : List (List Char)} :
    Divided text parts ↔ pieces text = parts := by
  refine ⟨Divided.pieces_eq, ?_⟩
  rintro rfl
  obtain ⟨parts, divided⟩ := exists_divided text
  exact divided.pieces_eq ▸ divided

theorem divided_pieces (text : List Char) : Divided text (pieces text) := divided_iff.mpr rfl

end Statement
end Crosscheck
