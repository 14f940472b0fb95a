import Crosscheck.Process
import Crosscheck.Session.Reception
import Crosscheck.Text.Utf8

/-!
# Reading streams line by line

The octets that a process writes to a stream are cut into lines where they are listened to.
A line that is no text ends the listening.
-/

namespace Crosscheck

/-- The reading end of a stream. -/
structure LineReader where
  /-- The octets since the last terminator, latest first. -/
  latest : List UInt8 := []
  /-- Whether the stream is still read. -/
  isOpen : Bool := true
  deriving DecidableEq, Repr

namespace LineReader

/-- The text of a complete line. A carriage return before the terminator belongs to it. -/
def lineText? (latest : List UInt8) : Option String :=
  let octets :=
    match latest with
    | 13 :: rest => rest.reverse
    | _ => latest.reverse
  (Text.Utf8.decode? octets).map String.ofList

/-- Cut octets into lines. A line that is no text closes the reader. -/
def feed (latest : List UInt8) : List UInt8 → List (Option String) × LineReader
  | [] => ([], ⟨latest, true⟩)
  | octet :: rest =>
    if octet = 10 then
      match lineText? latest with
      | some text =>
        let (lines, reader) := feed [] rest
        (some text :: lines, reader)
      | none => ([none], ⟨[], false⟩)
    else feed (octet :: latest) rest

/-- What arrives when the stream ends: what was left of it, and that it has ended. -/
def finish (reader : LineReader) : List (Option String) :=
  if !reader.isOpen then []
  else if reader.latest.isEmpty then [none]
  else
    match Text.Utf8.decode? reader.latest.reverse with
    | some text => [some (String.ofList text), none]
    | none => [none]

end LineReader

/-- A line as it arrives from a stream. -/
def Stream.line (stream : Stream) : Option String → Line
  | none => .closed
  | some text =>
    match stream with
    | .out => .out text
    | .err => .err text

end Crosscheck
