/-!
# Writers

A writer holds the text written so far and may refuse a write or a flush depending
on what it holds.
-/

namespace Crosscheck

/-- Text written so far, and when more of it is refused. -/
structure Writer where
  held : List Char := []
  refusesWrite : List Char → Option String := fun _ => none
  refusesFlush : List Char → Option String := fun _ => none

namespace Writer

/-- A writer that holds at most the given number of line ends. -/
def limited (lines : Nat) (cause : String) : Writer where
  refusesWrite held := if held.count '\n' ≥ lines then some cause else none

/-- Append a text, or refuse it and hold what was held before. A text is taken or refused as a
whole. Written piece by piece it could be cut off in the middle, and the pieces before the one
that is refused would be held; they are left out. -/
def write (writer : Writer) (text : List Char) : Except String Writer :=
  match writer.refusesWrite writer.held with
  | some cause => .error cause
  | none => .ok { writer with held := writer.held ++ text }

/-- Make what is held last. -/
def flush (writer : Writer) : Except String Unit :=
  match writer.refusesFlush writer.held with
  | some cause => .error cause
  | none => .ok ()

/-- Add one character to a list of lines whose first member is still open. -/
def extendLines (char : Char) : List (List Char) → List (List Char)
  | [] => if char = '\n' then [[], []] else [[char]]
  | line :: rest => if char = '\n' then [] :: line :: rest else (char :: line) :: rest

/-- The lines that are ended by a line end. -/
def completeLines (writer : Writer) : List String :=
  ((writer.held.foldr extendLines [[]]).dropLast).map String.ofList

end Writer
end Crosscheck
