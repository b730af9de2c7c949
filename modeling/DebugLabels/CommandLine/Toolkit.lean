import DebugLabels.CommandLine.Arguments
import DebugLabels.CommandLine.Exit
import DebugLabels.Files

/-!
# The library of the command

The command declares its arguments and leaves it to a library to read them, and to write on the
outputs. `Toolkit` is what it needs of such a library:

| part | use |
| --- | --- |
| `parse` | the arguments that words stand for |
| `check` | a look at a file argument before the command begins |
| `setting` | the choice between an option, the environment and a usual text |
| `plain` | a text for an output that is no terminal |
| `refuse` | the end of a command with wrong arguments |
| `answer` | the version and the help |

The remaining fields are laws. They are all that is known of a library, so what is said of a command
with any toolkit relies on nothing else.
-/

namespace DebugLabels
namespace CommandLine

/-- What the command needs of a library that reads arguments and writes on outputs. -/
structure Toolkit where
  /-- The arguments that the words of a command stand for. -/
  parse : (words : List String) → Except UsageError Arguments
  /-- What is wrong with a text for a file argument of this name, if anything is. -/
  check : {m : Type → Type} → [Monad m] → (disk : Disk m) → (argument text : String) →
    m (Option UsageError)
  /-- The text of a setting. -/
  setting : (option environment : Option String) → (usual : String) → String
  /-- A text as it is written on an output that is no terminal. -/
  plain : (text : String) → String
  /-- How a command with wrong arguments ends. -/
  refuse : (error : UsageError) → Exit
  /-- The text that is asked for. -/
  answer : (inquiry : Inquiry) → String
  /-- An option without a value in front of the words is read as such, and the other words are read
  as they are without it. -/
  parse_verbose (words : List String) : parse ("-v" :: words) = (parse words).map Arguments.loud
  /-- To look at an argument changes no file. -/
  leavesFiles_check (argument text : String) : LeavesFiles (check Files.disk argument text)
  /-- Nothing is written that is not in the text. -/
  plain_sublist (text : String) : (plain text).toList.Sublist text.toList
  /-- Only control sequences are left out, which start with an escape character. -/
  plain_eq_self {text : String} (htext : '\x1b' ∉ text.toList) : plain text = text
  /-- A refusal is no success. -/
  code_refuse (error : UsageError) : (refuse error).code ≠ 0
  /-- A refusal is told on the error output. -/
  stdout_refuse (error : UsageError) : (refuse error).stdout = ""

namespace Toolkit

variable (kit : Toolkit)

/-- A line on an output that is no terminal. -/
def echo (text : String) : String := kit.plain text ++ "\n"

/-- A failure is told in one line, and one that is nobody's fault also with its trace, if the
command is verbose. -/
def tell (verbose : Bool) (trace : String) (failure : Failure) : String :=
  kit.echo (introduction failure ++ failure.message) ++
    if verbose ∧ exitCode failure = 3 then trace else ""

/-- The end that a failure comes to. -/
def fail (verbose : Bool) (trace : String) (failure : Failure) : Exit :=
  ⟨exitCode failure, "", kit.tell verbose trace failure⟩

end Toolkit
end CommandLine
end DebugLabels
