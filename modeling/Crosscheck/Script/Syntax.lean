import Crosscheck.Process

/-!
# The syntax of scripts

Scripts are written in the command language of POSIX shells. Words are divided into parts,
since what a part expands to depends on whether it stands in quotes. Texts that stand in a
script below the command that reads them are kept apart from the commands and are referred
to by number.
-/

namespace Crosscheck.Script

mutual

/-- A part of a word. -/
inductive Part where
  | text (text : List Char) (quoted : Bool)
  | parameter (name : String) (operation : Operation) (quoted : Bool)
  | arithmetic (body : List Part) (quoted : Bool)
  /-- The output of a command. -/
  | output (body : Command) (quoted : Bool)

/-- What is done with the value of a parameter. -/
inductive Operation where
  | value
  | length
  /-- Use a word instead of a missing value, or of an empty one as well. -/
  | default (orEmpty : Bool) (word : List Part)
  /-- Give the parameter a value that it lacks. -/
  | assign (orEmpty : Bool) (word : List Part)
  /-- Use a word instead of a present value. -/
  | alternative (orEmpty : Bool) (word : List Part)
  /-- Give up for want of a value. -/
  | demand (orEmpty : Bool) (word : List Part)
  /-- Take away the shortest or the longest part at an end that matches a pattern. -/
  | trim (atEnd longest : Bool) (pattern : List Part)
  /-- What has no meaning. -/
  | unknown

/-- What is done with a file descriptor. -/
inductive Redirection where
  /-- Open a file. Writing a file anew may be forbidden if it exists, unless it is forced. -/
  | file (descriptor : Nat) (mode : OpenMode) (forced : Bool) (path : List Part)
  /-- Make a descriptor equal to another one, or close it. -/
  | duplicate (descriptor : Nat) (source : List Part)
  /-- Read a text that stands in the script. -/
  | document (descriptor : Nat) (number : Nat)

/-- A command. The line is that on which it begins. -/
inductive Command where
  | nothing
  | simple (line : Nat) (assignments : List (String × List Part)) (words : List (List Part))
      (redirections : List Redirection)
  | pipeline (stages : List Command)
  | negate (body : Command)
  | both (first second : Command)
  | either (first second : Command)
  | sequence (first second : Command)
  | background (body : Command)
  | branch (condition yes no : Command)
  | loop (stopsOnSuccess : Bool) (condition body : Command)
  | each (line : Nat) (name : String) (words : List (List Part)) (body : Command)
  | choice (line : Nat) (subject : List Part) (arms : List (List (List Part) × Command))
  | define (name : String) (body : Command)
  | apart (line : Nat) (body : Command) (redirections : List Redirection)
  | redirected (line : Nat) (body : Command) (redirections : List Redirection)

end

/-- A word: its parts stand side by side. -/
abbrev Word := List Part

instance : Inhabited Command := ⟨.nothing⟩

end Crosscheck.Script
