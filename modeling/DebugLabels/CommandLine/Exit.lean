import DebugLabels.Failure

/-!
# How the command ends

| exit code | meaning |
| ---: | --- |
| 0 | done |
| 1 | the conversion failed |
| 2 | the arguments or the settings are wrong |
| 3 | anything else |

A failure is told on the error output. An error about a record stands as it is, since it says that
it is one; every other failure is introduced by a word.
-/

namespace DebugLabels
namespace CommandLine

/-- What the command leaves behind: the exit code and what it wrote on its two outputs. -/
structure Exit where
  code : Nat
  stdout : String
  stderr : String
  deriving DecidableEq, Repr

/-- The exit code of a failure. -/
def exitCode : Failure → Nat
  | .error (.setting _) => 2
  | .error _ => 1
  | .usage _ => 2
  | .digitLimit | .emptyName _ | .internal _ => 3

/-- The words before a failure. -/
def introduction : Failure → String
  | .error error => if error.isLocated then "" else "Error: "
  | .usage _ => "Error: "
  | .digitLimit | .emptyName _ | .internal _ => "Internal error: "

/-- The trace of a failure that is told while nothing runs. -/
def noTrace : String := "NoneType: None\n"

end CommandLine
end DebugLabels
