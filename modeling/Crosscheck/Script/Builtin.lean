import Crosscheck.Script.Builtin.Control
import Crosscheck.Script.Builtin.Location
import Crosscheck.Script.Builtin.Naming
import Crosscheck.Script.Builtin.Signals
import Crosscheck.Script.Builtin.Text
import Crosscheck.Script.Builtin.Variable

/-!
# The commands of the script itself by name
-/

namespace Crosscheck.Script.Builtin

/-- The command of a name. -/
def find? : String → Option Builtin
  | ":" => some { isSpecial := true, run := succeed }
  | "." => some { isSpecial := true, run := evaluateFile }
  | "break" => some { isSpecial := true, run := breakLoops }
  | "continue" => some { isSpecial := true, run := continueLoops }
  | "eval" => some { isSpecial := true, run := evaluateText }
  | "exec" => some { isSpecial := true, run := execProgram }
  | "exit" => some { isSpecial := true, run := exitScript }
  | "export" => some { isSpecial := true, assigns := true, run := exportNames }
  | "local" => some { isSpecial := true, assigns := true, run := localNames }
  | "readonly" => some { isSpecial := true, assigns := true, run := readOnly }
  | "return" => some { isSpecial := true, run := returnFrom }
  | "set" => some { isSpecial := true, run := setOptions }
  | "shift" => some { isSpecial := true, run := shift }
  | "times" => some { isSpecial := true, run := showTimes }
  | "trap" => some { isSpecial := true, run := trap }
  | "unset" => some { isSpecial := true, run := unset }
  | "[" => some { run := bracket }
  | "alias" => some { assigns := true, run := defineAliases }
  | "bg" => some { run := bringJob }
  | "cd" => some { run := changeDirectory }
  | "chdir" => some { run := changeDirectory }
  | "command" => some { run := tellCommand }
  | "echo" => some { run := echo }
  | "false" => some { run := failAlways }
  | "fg" => some { run := bringJob }
  | "getopts" => some { run := searchOptions }
  | "hash" => some { run := lookAhead }
  | "jobs" => some { run := showJobs }
  | "kill" => some { run := kill }
  | "printf" => some { run := printf }
  | "pwd" => some { run := showDirectory }
  | "read" => some { run := read }
  | "test" => some { run := test }
  | "true" => some { run := succeed }
  | "type" => some { run := tellTypes }
  | "ulimit" => some { run := showLimits }
  | "umask" => some { run := setMask }
  | "unalias" => some { run := removeAliases }
  | "wait" => some { run := wait }
  | _ => none

end Crosscheck.Script.Builtin
