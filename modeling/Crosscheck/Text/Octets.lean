import Crosscheck.Text.Utf8

/-!
# Texts made of octets

Programs that treat their text octet by octet see each octet as a character of its own. What
the octets spell in the encoding of texts matters to them only where they name a file.
-/

namespace Crosscheck.Text

/-- The character of an octet. -/
def charOfOctet (octet : UInt8) : Char := Char.ofNat octet.toNat

/-- The octet of a character. -/
def octetOfChar (char : Char) : UInt8 := UInt8.ofNat char.toNat

/-- Octets as characters. -/
def ofOctets (octets : List UInt8) : List Char := octets.map charOfOctet

/-- The octets of a text. -/
def toOctets (text : List Char) : List UInt8 := text.map octetOfChar

/-- The characters of the octets of a text in its encoding. -/
def ofString (text : String) : List Char := ofOctets (Utf8.octets text)

/-- The path that a text means. -/
def pathOf (text : List Char) : String :=
  String.ofList ((Utf8.decode? (toOctets text)).getD text)

/-- The digits of a number. -/
def digits (value : Nat) : List Char := Nat.toDigits 10 value

/-- Divide a text into its lines, which keep their terminators. -/
def lines : List Char → List (List Char)
  | [] => []
  | '\n' :: rest => ['\n'] :: lines rest
  | char :: rest =>
    match lines rest with
    | [] => [[char]]
    | line :: others => (char :: line) :: others

end Crosscheck.Text
