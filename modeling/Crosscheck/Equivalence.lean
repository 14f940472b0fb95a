import Crosscheck.Failure
import Crosscheck.Outcome
import Crosscheck.Text.Blank

/-!
# Equivalent outputs

A predicate decides whether two versions answered the same. It may be exact, may
look through differences that engines are free to make, or may be any function that
the user brings, which can also refuse or unwind.
-/

namespace Crosscheck

/-- Why a predicate gave no answer. -/
inductive PredicateFailure where
  | refused (failure : Failure)
  | unwound (payload : Payload)
  deriving DecidableEq, Repr

/-- Decides whether two outputs agree. -/
abbrev Predicate := Output → Output → Except PredicateFailure Bool

namespace Predicate

/-- Outputs agree if they are equal. -/
def exact : Predicate := fun left right => .ok (left == right)

end Predicate

/-- The differences that comparison looks through. -/
structure Normalization where
  /-- Rows without a defined order are compared as multisets. -/
  unorderedRows : Bool := true
  /-- Values are compared by their fields. -/
  collapseBlanks : Bool := true
  /-- Any two errors agree. -/
  anyErrors : Bool := false
  deriving DecidableEq, Repr

namespace Normalization

/-- A value as it is compared: its fields with one space between two, if blanks are
looked through. -/
def value (normalization : Normalization) (text : String) : String :=
  if normalization.collapseBlanks then
    " ".intercalate ((Text.fields text.toList).map String.ofList)
  else text

/-- Rows as they are compared: in ascending order, if their order is looked through. -/
def rows (normalization : Normalization) (rows : List (List String)) : List (List String) :=
  let rows := rows.map (List.map normalization.value)
  if normalization.unorderedRows then rows.mergeSort fun left right => !right.lex left (decide <| · < ·)
  else rows

/-- Whether two outputs agree. -/
def equivalent (normalization : Normalization) : Output → Output → Bool
  | .rows left, .rows right =>
    left.length == right.length && normalization.rows left == normalization.rows right
  | .changes left, .changes right => left == right
  | .error left, .error right =>
    normalization.anyErrors || normalization.value left == normalization.value right
  | _, _ => false

/-- The predicate of a normalization, which always answers. -/
def predicate (normalization : Normalization) : Predicate :=
  fun left right => .ok (normalization.equivalent left right)

end Normalization
end Crosscheck
