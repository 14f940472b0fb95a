import Crosscheck.Outcome

/-!
# Transcripts

What an engine wrote for one input. Anything on its error stream makes the whole an
error, and rows are divided into columns at the separator.
-/

namespace Crosscheck

/-- The lines of both streams, in order, and the number of changed rows. -/
structure Transcript where
  out : List String := []
  err : List String := []
  changes : UInt64 := 0
  deriving DecidableEq, Repr

namespace Transcript

/-- Divide a line wherever the separator stands, from left to right; the first characters
may belong to a separator already passed. -/
def cellsFrom (separator : List Char) (skip : Nat) (latest : List Char) :
    List Char → List (List Char)
  | [] => [latest.reverse]
  | char :: rest =>
    match skip with
    | skip + 1 => cellsFrom separator skip latest rest
    | 0 =>
      if separator.isPrefixOf (char :: rest) then
        latest.reverse :: cellsFrom separator (separator.length - 1) [] rest
      else cellsFrom separator 0 (char :: latest) rest

/-- The columns of a row. An empty separator stands before, between and after all
characters. -/
def cells (separator line : List Char) : List (List Char) :=
  if separator.isEmpty then [[]] ++ line.map ([·]) ++ [[]]
  else cellsFrom separator 0 [] line

/-- A letter of the Latin alphabet in its small form. -/
def lower (char : Char) : Char :=
  if 'A' ≤ char ∧ char ≤ 'Z' then Char.ofNat (char.toNat + 32) else char

/-- Whether a text occurs in another one. -/
def occurs (part : List Char) : List Char → Bool
  | [] => part.isEmpty
  | char :: rest => part.isPrefixOf (char :: rest) || occurs part rest

/-- How an engine says that it has no memory left. -/
def exhaustion : List Char := "out of memory".toList

/-- The outcome that a transcript amounts to. -/
def outcome (separator : String) (transcript : Transcript) : Outcome :=
  if !transcript.err.isEmpty then
    let message := "\n".intercalate transcript.err
    if occurs exhaustion (message.toList.map lower) then
      .faulted ⟨.resourceExhausted, message⟩
    else .completed (.error message)
  else if transcript.out.isEmpty then .completed (.changes transcript.changes)
  else
    .completed (.rows (transcript.out.map fun line =>
      (cells separator.toList line.toList).map String.ofList))

end Transcript
end Crosscheck
