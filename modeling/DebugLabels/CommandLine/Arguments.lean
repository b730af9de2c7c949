/-!
# Arguments of the command

    dbg2mlb [options] INPUT_FILE [OUTPUT_FILE]

| option | value |
| --- | --- |
| `-b`, `--base` | the base offset |
| `-e`, `--expansion-ram` | the expansion RAM |
| `--ranges`, `--no-ranges` | none |
| `-v`, `--verbose` | none |
| `--version`, `--help` | none |

The words of a command stand for its `Arguments`, or something is wrong with them (`UsageError`).
-/

namespace DebugLabels
namespace CommandLine

/-- What is wrong with the arguments. -/
inductive UsageError
  | noSuchOption (name : String)
  | valueMissing (name : String)
  | valueNotTaken (name : String)
  | inputMissing
  | tooManyFiles (extra : List String)
  /-- A file argument, of this name, is a directory. -/
  | isDirectory (argument path : String)
  /-- A file argument, of this name, holds the character U+0000, so nothing can be found out about
  the path. -/
  | nullCharacter (argument : String)
  deriving DecidableEq, Repr

/-- The text about the command that is asked for in place of a conversion. -/
inductive Inquiry
  | version
  | help
  deriving DecidableEq, Repr

/-- The arguments so far. -/
structure Arguments where
  files : List String := []
  base : Option String := none
  ram : Option String := none
  ranges : Bool := false
  verbose : Bool := false
  /-- The first inquiry. -/
  inquiry : Option Inquiry := none
  deriving DecidableEq, Repr

/-- The arguments of a verbose command. -/
def Arguments.loud (arguments : Arguments) : Arguments := { arguments with verbose := true }

end CommandLine
end DebugLabels
