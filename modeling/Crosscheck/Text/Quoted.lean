import Crosscheck.Text.Coded

/-!
# Quoted text

Paths, versions and commands appear in messages between double quotes. The two
delimiters of the notation and four common controls have a short form; every other
character without a visible form of its own is shown by its code.
-/

namespace Crosscheck.Text

/-- A character inside quotes. -/
def quotedChar (char : Char) : String :=
  match char with
  | '\x22' => "\\\x22"
  | '\\' => "\\\\"
  | '\n' => "\\n"
  | '\r' => "\\r"
  | '\t' => "\\t"
  | '\x00' => "\\0"
  | _ =>
    if isCoded char then
      "\\u\x7b" ++ String.ofList (Nat.toDigits 16 char.toNat) ++ "\x7d"
    else char.toString

/-- A text between double quotes. -/
def quoted (text : String) : String :=
  "\x22" ++ String.join (text.toList.map quotedChar) ++ "\x22"

/-- A list of texts, each quoted. -/
def quotedList (texts : List String) : String :=
  "[" ++ ", ".intercalate (texts.map quoted) ++ "]"

end Crosscheck.Text
