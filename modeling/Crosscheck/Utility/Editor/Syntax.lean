import Crosscheck.Text.Regex

/-!
# Editing scripts

A script for the stream editor is a list of instructions, each of which is done with the lines
that its addresses select. Blocks of instructions are passed over by jumps.
-/

namespace Crosscheck.Utility.Editor

open Text (Regex)

/-- An expression with the ways in which it differs from the usual; without an expression
the last one that was used is meant. -/
structure Search where
  regex : Option Regex
  ignoresCase : Bool := false
  hasLines : Bool := false

/-- What selects a line. -/
inductive Address where
  | line (number : Nat)
  /-- A line and then every so many lines. -/
  | every (first step : Nat)
  | last
  | search (search : Search)

/-- Where the lines end that an address selects the first of. -/
inductive RangeEnd where
  | address (address : Address)
  /-- A number of lines later. -/
  | later (count : Nat)
  /-- At a line with a number that is divisible. -/
  | multiple (divisor : Nat)

/-- The lines with which something is done. -/
inductive Selection where
  | all
  | one (address : Address)
  /-- Lines up to an end, which may be on the first line already if the start is before it. -/
  | range (first : Option Address) (last : RangeEnd)

/-- A part of what is put in place of a match. -/
inductive Replacement where
  | text (text : List Char)
  /-- What a group has matched. -/
  | group (number : Nat)
  /-- The letters that follow are changed up to the end or to the next change. -/
  | change (change : Option Bool)
  /-- The next letter is changed. -/
  | changeNext (upper : Bool)

/-- Where something is written to. -/
inductive Target where
  | out
  | err
  | file (path : List Char)
  deriving DecidableEq

/-- What is done about matches. -/
structure Substitution where
  search : Search
  replacement : List Replacement
  /-- The number of the first match that is replaced. -/
  first : Nat := 1
  isGlobal : Bool := false
  prints : Nat := 0
  target : Option Target := none

/-- What an instruction does. -/
inductive Action where
  /-- Go to an instruction unless the line is selected. -/
  | block (after : Nat)
  | jump (label : Option (List Char))
  | jumpIf (replaced : Bool) (label : Option (List Char))
  | append (text : List Char)
  | insert (text : List Char)
  | change (text : List Char)
  | delete
  | deleteFirst
  | print
  | printFirst
  | next
  | appendNext
  | hold (appends : Bool)
  | fetch (appends : Bool)
  | exchange
  | clear
  | showLine (length : Option Nat)
  | showNumber
  | showName
  | quit (prints : Bool) (status : Nat)
  | readFile (path : List Char)
  | readLine (path : List Char)
  | write (first : Bool) (target : Target)
  | substitute (substitution : Substitution)
  | transliterate (pairs : List (Char × Char))
  | nothing

/-- An instruction. -/
structure Instruction where
  selection : Selection := .all
  negated : Bool := false
  action : Action

/-- A script. -/
structure Script where
  instructions : Array Instruction := #[]
  /-- The places of labels. -/
  labels : List (List Char × Nat) := []
  quiet : Bool := false

end Crosscheck.Utility.Editor
