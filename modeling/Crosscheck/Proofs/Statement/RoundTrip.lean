import Mathlib
import Crosscheck.Proofs.Statement.Division
import Crosscheck.Proofs.Text.Utf8

/-!
# Splitting what was joined

Joining ends every statement with a terminator, and splitting takes it off again, unless
the statement leaves a quoted part open: then the terminator, and all that is joined
after it, is drawn into the statement. `Standalone` names the statements that survive on
their own, `splitText_of_closed` and `splitText_of_open` say which statements an input
has, and `split_join_exact` puts both together.
-/

namespace Crosscheck.Statement

open Text

theorem isBlank_terminator : isBlank terminator = false := by decide

/-- What every statement of an input is: not blank, trimmed and without a bare terminator. -/
structure Whole (text : List Char) : Prop where
  nonblank : ∃ char ∈ text, isBlank char = false
  trimmed : Trimmed text
  unbroken : ¬HasBare .outside text

/-- A statement that also ends outside quotes. -/
structure Standalone (text : List Char) : Prop extends Whole text where
  closed : Quoting.outside.after text = .outside

section Trim

/-- Trimming changes nothing in where a scan ends. -/
theorem after_trim (text : List Char) :
    Quoting.outside.after (trim text) = Quoting.outside.after text := by
  obtain ⟨left, right, split, leftBlank, rightBlank⟩ := exists_blank_append text
  conv_rhs => rw [split]
  rw [Quoting.after_append, Quoting.after_append,
    Quoting.proper_outside.after_of_blank leftBlank,
    (Quoting.proper_outside.after _).after_of_blank rightBlank]

theorem not_hasBare_trim {text : List Char} (unbroken : ¬HasBare .outside text) :
    ¬HasBare .outside (trim text) := by
  obtain ⟨left, right, split, leftBlank, _⟩ := exists_blank_append text
  rw [split, hasBare_append, hasBare_append, Quoting.proper_outside.after_of_blank leftBlank]
    at unbroken
  exact fun bare => unbroken (.inl (.inr bare))

theorem Whole.of_ne_nil {text : List Char} (nonempty : text ≠ []) (trimmed : Trimmed text)
    (unbroken : ¬HasBare .outside text) : Whole text := by
  obtain ⟨head, rest, rfl⟩ := List.exists_cons_of_ne_nil nonempty
  exact ⟨⟨head, List.mem_cons_self, trimmed.first head rfl⟩, trimmed, unbroken⟩

theorem Whole.ne_nil {text : List Char} (whole : Whole text) : text ≠ [] := by
  rintro rfl
  obtain ⟨_, member, _⟩ := whole.nonblank
  simp at member

/-- A piece that is not blank becomes one statement. -/
theorem splitText_of_unbroken {text : List Char} (unbroken : ¬HasBare .outside text) :
    splitText text = if trim text = [] then [] else [trim text] := by
  rw [splitText, (Divided.last unbroken).pieces_eq]
  by_cases blank : trim text = [] <;> simp [blank]

@[simp] theorem splitText_nil : splitText [] = [] := rfl

theorem Whole.splitText_eq {text : List Char} (whole : Whole text) : splitText text = [text] := by
  rw [splitText_of_unbroken whole.unbroken, whole.trimmed.trim_eq, if_neg whole.ne_nil]

theorem whole_of_mem_of_unbroken {text statement : List Char} (unbroken : ¬HasBare .outside text)
    (member : statement ∈ splitText text) : statement = trim text ∧ Whole statement := by
  rw [splitText_of_unbroken unbroken] at member
  split at member
  · simp at member
  next nonempty =>
    rw [List.mem_singleton] at member
    exact ⟨member, member ▸ .of_ne_nil nonempty (trimmed_trim text) (not_hasBare_trim unbroken)⟩

end Trim

section Split

theorem Divided.append {left right : List Char} {parts others : List (List Char)}
    (first : Divided left parts) (closed : Quoting.outside.after left = .outside)
    (second : Divided right others) :
    Divided (left ++ terminator :: right) (parts ++ others) := by
  induction first with
  | last whole => exact .cut whole closed second
  | @cut piece rest parts whole ended _ inductionHypothesis =>
      rw [Quoting.after_append, ended] at closed
      rw [List.append_assoc, List.cons_append, List.cons_append]
      exact .cut whole ended (inductionHypothesis closed)

/-- A bare terminator divides the statements of an input. -/
theorem splitText_append {left : List Char} (closed : Quoting.outside.after left = .outside)
    (right : List Char) :
    splitText (left ++ terminator :: right) = splitText left ++ splitText right := by
  have whole := (divided_pieces left).append closed (divided_pieces right)
  rw [splitText, whole.pieces_eq, List.map_append, List.filter_append]
  rfl

/-- A blank in front of an input belongs to no statement. -/
theorem splitText_cons_of_blank {char : Char} (blank : isBlank char = true) (text : List Char) :
    splitText (char :: text) = splitText text := by
  have same : Quoting.outside.next char = .outside :=
    Quoting.next_outside (Quoting.isMark_of_isBlank blank)
  have plain : char ≠ terminator := by
    rintro rfl
    simp [isBlank_terminator] at blank
  have unbroken : ∀ {text : List Char}, ¬HasBare .outside text →
      ¬HasBare .outside (char :: text) := by
    intro text whole
    simp [hasBare_cons, same, plain, whole]
  have divided := divided_pieces text
  generalize pieces text = parts at divided
  cases divided with
  | last whole =>
      rw [splitText_of_unbroken whole, splitText_of_unbroken (unbroken whole),
        trim_cons_of_blank blank]
  | @cut piece rest parts whole closed _ =>
      have alsoClosed : Quoting.outside.after (char :: piece) = .outside := by
        rw [Quoting.after_cons, same, closed]
      rw [← List.cons_append, splitText_append closed, splitText_append alsoClosed,
        splitText_of_unbroken whole, splitText_of_unbroken (unbroken whole),
        trim_cons_of_blank blank]

/-- Every statement of an input that ends outside quotes stands on its own. -/
theorem splitText_of_closed {text : List Char} (closed : Quoting.outside.after text = .outside) :
    ∀ statement ∈ splitText text, Standalone statement := by
  have divided := divided_pieces text
  generalize pieces text = parts at divided
  have single : ∀ {piece : List Char}, ¬HasBare .outside piece →
      Quoting.outside.after piece = .outside → ∀ statement ∈ splitText piece,
        Standalone statement := by
    intro piece unbroken ended statement member
    obtain ⟨rfl, whole⟩ := whole_of_mem_of_unbroken unbroken member
    exact ⟨whole, (after_trim piece).trans ended⟩
  induction divided with
  | last unbroken => exact single unbroken closed
  | @cut piece rest _ unbroken ended _ inductionHypothesis =>
      rw [Quoting.after_append, ended] at closed
      rw [splitText_append ended]
      intro statement member
      rcases List.mem_append.mp member with here | later
      · exact single unbroken ended statement here
      · exact inductionHypothesis closed statement later

/-- An input that ends inside quotes has a last statement, which ends there as well; those
before it stand on their own. -/
theorem splitText_of_open {text : List Char} (opened : Quoting.outside.after text ≠ .outside) :
    ∃ earlier last, splitText text = earlier ++ [last] ∧
      (∀ statement ∈ earlier, Standalone statement) ∧
      Whole last ∧ Quoting.outside.after last ≠ .outside := by
  have divided := divided_pieces text
  generalize pieces text = parts at divided
  induction divided with
  | @last text unbroken =>
      have trimmed : Quoting.outside.after (trim text) ≠ .outside := by rwa [after_trim]
      have nonempty : trim text ≠ [] := by
        intro blank
        simp [blank] at trimmed
      refine ⟨[], trim text, ?_, by simp, ?_, trimmed⟩
      · rw [splitText_of_unbroken unbroken, if_neg nonempty, List.nil_append]
      · exact .of_ne_nil nonempty (trimmed_trim text) (not_hasBare_trim unbroken)
  | @cut piece rest _ unbroken ended _ inductionHypothesis =>
      rw [Quoting.after_append, ended] at opened
      obtain ⟨earlier, last, rests, standalone, whole⟩ := inductionHypothesis opened
      refine ⟨splitText piece ++ earlier, last, ?_, ?_, whole⟩
      · rw [splitText_append ended, rests, List.append_assoc]
      · intro statement member
        rcases List.mem_append.mp member with here | later
        · exact splitText_of_closed ended statement here
        · exact standalone statement later

/-- Either way, no statement of an input has a bare terminator. -/
theorem whole_of_mem_splitText {text statement : List Char} (member : statement ∈ splitText text) :
    Whole statement := by
  by_cases closed : Quoting.outside.after text = .outside
  · exact (splitText_of_closed closed statement member).toWhole
  · obtain ⟨earlier, last, split, standalone, whole, _⟩ := splitText_of_open closed
    rw [split, List.mem_append, List.mem_singleton] at member
    rcases member with before | rfl
    · exact (standalone statement before).toWhole
    · exact whole

end Split

section Join

/-- What is joined after a statement that ends outside quotes is split on its own. -/
theorem splitText_joinText_cons {statement : List Char}
    (closed : Quoting.outside.after statement = .outside) (rest : List (List Char)) :
    splitText (joinText (statement :: rest)) =
      splitText statement ++ splitText (joinText rest) := by
  cases rest with
  | nil => exact splitText_append closed []
  | cons next rest =>
      have joined : joinText (statement :: next :: rest) =
          statement ++ terminator :: ' ' :: joinText (next :: rest) := rfl
      rw [joined, splitText_append closed, splitText_cons_of_blank (by decide)]

theorem splitText_joinText_append {earlier : List (List Char)}
    (standalone : ∀ statement ∈ earlier, Standalone statement) (rest : List (List Char)) :
    splitText (joinText (earlier ++ rest)) = earlier ++ splitText (joinText rest) := by
  induction earlier with
  | nil => rfl
  | cons head tail inductionHypothesis =>
      have first := standalone head List.mem_cons_self
      rw [List.cons_append, splitText_joinText_cons first.closed, first.toWhole.splitText_eq,
        inductionHypothesis fun other member => standalone other (List.mem_cons_of_mem _ member)]
      rfl

/-- Statements that stand on their own survive being joined. -/
theorem splitText_joinText_of_standalone {statements : List (List Char)}
    (standalone : ∀ statement ∈ statements, Standalone statement) :
    splitText (joinText statements) = statements := by
  simpa [joinText] using splitText_joinText_append standalone []

/-- A last statement that ends inside quotes takes its terminator in. -/
theorem splitText_joinText_of_open {earlier : List (List Char)} {last : List Char}
    (standalone : ∀ statement ∈ earlier, Standalone statement) (whole : Whole last)
    (opened : Quoting.outside.after last ≠ .outside) :
    splitText (joinText (earlier ++ [last])) = earlier ++ [last ++ [terminator]] := by
  have extended : Whole (last ++ [terminator]) := by
    refine .of_ne_nil (by simp) ⟨?_, ?_⟩ ?_
    · intro char first
      rw [List.head?_append_of_ne_nil _ whole.ne_nil] at first
      exact whole.trimmed.first char first
    · intro char ends
      rw [List.getLast?_concat, Option.some.injEq] at ends
      exact ends ▸ isBlank_terminator
    · rw [hasBare_append, not_or]
      refine ⟨whole.unbroken, ?_⟩
      rw [hasBare_cons, not_or]
      exact ⟨fun ends => opened ends.1, not_hasBare_nil⟩
  rw [splitText_joinText_append standalone, joinText, extended.splitText_eq]

/-- Only statements that stand on their own survive being joined. -/
theorem splitText_joinText_eq_iff (statements : List (List Char)) :
    splitText (joinText statements) = statements ↔
      ∀ statement ∈ statements, Standalone statement := by
  refine ⟨fun same => ?_, splitText_joinText_of_standalone⟩
  by_cases closed : Quoting.outside.after (joinText statements) = .outside
  · exact same ▸ splitText_of_closed closed
  · obtain ⟨earlier, last, split, standalone, whole, opened⟩ := splitText_of_open closed
    rw [same] at split
    subst split
    simp [splitText_joinText_of_open standalone whole opened] at same

/-- A text without a bare terminator becomes at most one statement. -/
theorem length_splitText_of_unbroken {text : List Char} (unbroken : ¬HasBare .outside text) :
    (splitText text).length ≤ 1 := by
  rw [splitText_of_unbroken unbroken]
  split <;> simp

/-- A statement that ends inside quotes draws in those that are joined after it. If they have
no terminators of their own, this yields no more statements than were joined. -/
theorem length_splitText_joinText_le {first : List Char} {rest : List (List Char)}
    (unbroken : ¬HasBare .outside first) (plain : ∀ statement ∈ rest, terminator ∉ statement) :
    (splitText (joinText (first :: rest))).length ≤ rest.length + 1 := by
  induction rest generalizing first with
  | nil =>
      by_cases closed : Quoting.outside.after first = .outside
      · rw [splitText_joinText_cons closed, joinText, splitText_nil, List.append_nil]
        exact length_splitText_of_unbroken unbroken
      · refine length_splitText_of_unbroken ?_
        rw [joinText, hasBare_append, hasBare_cons]
        simp [unbroken, closed]
  | cons next rest inductionHypothesis =>
      rw [List.forall_mem_cons] at plain
      by_cases closed : Quoting.outside.after first = .outside
      · rw [splitText_joinText_cons closed, List.length_append]
        have one := length_splitText_of_unbroken unbroken
        have others := inductionHypothesis (not_hasBare_of_not_mem plain.1) plain.2
        simp only [List.length_cons]
        omega
      · -- The first two statements are one, which has no bare terminator either.
        have drawn : joinText (first :: next :: rest) =
            joinText ((first ++ terminator :: ' ' :: next) :: rest) := by
          cases rest <;> simp [joinText]
        have still : ¬HasBare .outside (first ++ terminator :: ' ' :: next) := by
          rw [hasBare_append, hasBare_cons, hasBare_cons]
          simp [unbroken, closed, not_hasBare_of_not_mem plain.1, terminator]
        rw [drawn]
        exact (inductionHypothesis still plain.2).trans (by simp)

end Join

section Octets

/-- Joined statements are split as the text that they were joined to. -/
theorem map_toList_split_join (statements : List String) :
    (split (join statements)).map String.toList =
      splitText (joinText (statements.map String.toList)) := by
  simp [split, join, Utf8.decodeLossy_encode, Function.comp_def]

theorem map_toList_split (input : List UInt8) :
    (split input).map String.toList = splitText (Utf8.decodeLossy input) := by
  simp [split, Function.comp_def]

theorem toList_injective : Function.Injective (List.map String.toList) :=
  List.map_injective_iff.mpr fun _ _ => String.toList_injective

theorem split_join_eq_iff (statements : List String) :
    split (join statements) = statements ↔
      ∀ statement ∈ statements, Standalone statement.toList := by
  rw [← toList_injective.eq_iff, map_toList_split_join, splitText_joinText_eq_iff,
    List.forall_mem_map]

/-- The statements of an input that ends outside quotes stand on their own. -/
theorem standalone_of_mem_split {input : List UInt8} {statement : String}
    (closed : Quoting.outside.after (Utf8.decodeLossy input) = .outside)
    (member : statement ∈ split input) : Standalone statement.toList := by
  refine splitText_of_closed closed _ ?_
  rw [← map_toList_split]
  exact List.mem_map_of_mem member

theorem length_split_join_le {first : String} {rest : List String}
    (unbroken : ¬HasBare .outside first.toList)
    (plain : ∀ statement ∈ rest, terminator ∉ statement.toList) :
    (split (join (first :: rest))).length ≤ rest.length + 1 := by
  have texts := length_splitText_joinText_le unbroken (List.forall_mem_map.mpr plain)
  rw [← List.map_cons, ← map_toList_split_join] at texts
  simpa using texts

theorem whole_of_mem_split {input : List UInt8} {statement : String}
    (member : statement ∈ split input) : Whole statement.toList := by
  have listed := List.mem_map_of_mem (f := String.toList) member
  rw [map_toList_split] at listed
  exact whole_of_mem_splitText listed

/-- Splitting an input that ends inside quotes, joining and splitting again adds a terminator
to its last statement, which does not stand on its own. -/
theorem split_join_split_of_open {input : List UInt8}
    (opened : Quoting.outside.after (Utf8.decodeLossy input) ≠ .outside) :
    ∃ earlier last, split input = earlier ++ [last] ∧ ¬Standalone last.toList ∧
      split (join (split input)) = earlier ++ [last ++ ";"] := by
  obtain ⟨earlier, last, pieces, standalone, whole, stillOpen⟩ := splitText_of_open opened
  refine ⟨earlier.map String.ofList, String.ofList last, ?_, ?_, ?_⟩
  · rw [split, pieces, List.map_append, List.map_singleton]
  · rw [String.toList_ofList]
    exact fun alone => stillOpen alone.closed
  · apply toList_injective
    rw [map_toList_split_join, map_toList_split, pieces,
      splitText_joinText_of_open standalone whole stillOpen]
    simp [Function.comp_def, terminator]

/-- Splitting undoes joining exactly on statements that stand on their own. The statements
of an input do so exactly if its text ends outside quotes; otherwise the last of them comes
back with a terminator. -/
theorem split_join_exact :
    (∀ statements : List String, split (join statements) = statements ↔
      ∀ statement ∈ statements, Standalone statement.toList) ∧
    ∀ input : List UInt8,
      (split (join (split input)) = split input ↔
        Quoting.outside.after (Utf8.decodeLossy input) = .outside) ∧
      (Quoting.outside.after (Utf8.decodeLossy input) ≠ .outside →
        ∃ earlier last, split input = earlier ++ [last] ∧
          split (join (split input)) = earlier ++ [last ++ ";"]) := by
  refine ⟨split_join_eq_iff, fun input => ⟨?_, fun opened => ?_⟩⟩
  · rw [split_join_eq_iff]
    refine ⟨fun standalone => ?_, fun closed _ => standalone_of_mem_split closed⟩
    by_contra opened
    obtain ⟨earlier, last, pieces, dependent, _⟩ := split_join_split_of_open opened
    exact dependent (standalone last (by simp [pieces]))
  · obtain ⟨earlier, last, pieces, _, again⟩ := split_join_split_of_open opened
    exact ⟨earlier, last, pieces, again⟩

/-- An open quote takes its terminator in. -/
example : split (join ["a", "'b"]) = ["a", "'b;"] := by decide +kernel

end Octets

end Crosscheck.Statement
