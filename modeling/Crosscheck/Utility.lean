import Crosscheck.Utility.Blocks
import Crosscheck.Utility.Copy
import Crosscheck.Utility.Delegate
import Crosscheck.Utility.Dump
import Crosscheck.Utility.Editor.Run
import Crosscheck.Utility.Files
import Crosscheck.Utility.Lines
import Crosscheck.Utility.Number
import Crosscheck.Utility.Search
import Crosscheck.Utility.Simple
import Crosscheck.Utility.Sort
import Crosscheck.Utility.Transliterate

/-!
# Utilities by name
-/

namespace Crosscheck.Utility

/-- The utilities that pass on, choose or change text. -/
def textTable : List (String × Utility Nat) := [
  ("base64", Dump.base64), ("cat", cat), ("cut", Selection.cut), ("dd", Blocks.dd), ("fold", fold),
  ("grep", Search.grep), ("head", head), ("nl", nl), ("od", Dump.od), ("paste", paste), ("rev", rev),
  ("sed", Editor.edit), ("sort", Sort.sort), ("tac", tac), ("tail", tail), ("tee", tee),
  ("tr", Transliterate.transliterate), ("uniq", Repetition.uniq), ("wc", Count.wc)]

/-- The utilities that look at files or change them. -/
def fileTable : List (String × Utility Nat) := [
  ("basename", Files.basename), ("chmod", Files.chmod), ("cmp", Files.cmp), ("cp", Files.cp),
  ("dirname", Files.dirname), ("ln", Files.ln), ("ls", Files.ls), ("mkdir", Files.mkdir),
  ("mv", Files.mv), ("readlink", Files.readlink), ("realpath", Files.realpath), ("rm", Files.rm),
  ("rmdir", Files.rmdir), ("touch", Files.touch), ("truncate", Files.truncate),
  ("unlink", Files.unlink), ("which", Files.which)]

/-- The utilities that only look at their arguments and at their setting. -/
def plainTable : List (String × Utility Nat) := [
  ("[", bracket), ("echo", echo), ("expr", Expression.expr), ("false", return 1), ("kill", kill),
  ("printenv", showEnvironment), ("printf", printf), ("pwd", pwd), ("seq", Sequence.seq),
  ("sleep", sleep), ("sync", return 0), ("test", test), ("true", return 0), ("uname", say "Linux"),
  ("whoami", say "root"), ("yes", yes)]

/-- The utilities by name. -/
def table : List (String × Utility Nat) := textTable ++ fileTable ++ plainTable

end Crosscheck.Utility
