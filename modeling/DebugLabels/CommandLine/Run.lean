import DebugLabels.CommandLine.Command
import DebugLabels.CommandLine.Words
import DebugLabels.Text.ControlSequence

/-!
# Running the command

`Toolkit.standard` is a library with the laws of a `Toolkit`: words are read as `Arguments.ofWords`
says, an output that is no terminal gets no control sequences, and wrong arguments end the command
with exit code 2. The command runs with it (`run`).

A path with the character U+0000 is refused in another way. Nothing can be found out about it, so
the library stops with a trace, and the exit code is 1.
-/

namespace DebugLabels
namespace CommandLine

/-- A setting as text: from the option, or from the environment unless it is empty there, or the
usual one. -/
def settingText (option environment : Option String) (usual : String) : String :=
  (option.or (nonEmpty? environment)).getD usual

section

variable {m : Type → Type} [Monad m]

/-- What is wrong with a file argument, if anything is: no file can have the path, or a directory
does. -/
def fileFault? (disk : Disk m) (argument text : String) : m (Option UsageError) := do
  if (Path.ofText text).holdsNull then return some (.nullCharacter argument)
  if ← disk.isDirectory text then return some (.isDirectory argument text)
  return none

end

theorem leavesFiles_fileFault? (argument text : String) :
    LeavesFiles (fileFault? Files.disk argument text) := by
  have hdirectory : LeavesFiles (Files.disk.isDirectory text) := fun _ => rfl
  unfold fileFault?
  split
  · exact .pure _
  · refine .bind hdirectory fun isDirectory => ?_
    cases isDirectory <;> exact .pure _

namespace UsageError

/-- What is wrong, in words. -/
def message : UsageError → String
  | noSuchOption name => "No such option: " ++ name
  | valueMissing name => "Option '" ++ name ++ "' requires an argument."
  | valueNotTaken name => "Option '" ++ name ++ "' does not take a value."
  | inputMissing => "Missing argument 'INPUT_FILE'."
  | tooManyFiles [file] => "Got unexpected extra argument (" ++ file ++ ")"
  | tooManyFiles files => "Got unexpected extra arguments (" ++ " ".intercalate files ++ ")"
  | isDirectory argument path =>
    "Invalid value for '" ++ argument ++ "': File '" ++ path ++ "' is a directory."
  | nullCharacter _ => FileReason.nullCharacter.text

/-- The end that wrong arguments come to. -/
def exit (error : UsageError) : Exit :=
  match error with
  | nullCharacter _ => ⟨1, "", "ValueError: " ++ error.message ++ "\n"⟩
  | _ =>
    ⟨2, "",
      "Usage: dbg2mlb [OPTIONS] INPUT_FILE [OUTPUT_FILE]\n" ++
        "Try 'dbg2mlb --help' for help.\n\nError: " ++ error.message ++ "\n"⟩

theorem code_exit (error : UsageError) : error.exit.code ≠ 0 := by
  cases error <;> exact Nat.succ_ne_zero _

theorem stdout_exit (error : UsageError) : error.exit.stdout = "" := by
  cases error <;> rfl

end UsageError

namespace Inquiry

/-- The text that was asked for. -/
def text : Inquiry → String
  | version => "dbg2mlb, version 1.0.0\n"
  | help =>
    "Usage: dbg2mlb [OPTIONS] INPUT_FILE [OUTPUT_FILE]\n\n" ++
      "  Convert a ca65/ld65 debug file to a Mesen label file.\n\n" ++
      "  INPUT_FILE is the debug file written by `ld65 --dbgfile`. OUTPUT_FILE is the\n" ++
      "  .mlb file to write (default: INPUT_FILE with a .mlb suffix, or - for\n" ++
      "  stdout).\n\n" ++
      "  Not every feature of the debug file is supported by Mesen (notably anonymous\n" ++
      "  labels), so those are left out of the label file.\n\n" ++
      "  Examples:\n" ++
      "      dbg2mlb cart.dbg                  # Outputs cart.mlb\n" ++
      "      dbg2mlb cart.dbg cart.mlb -e S    # $6000-$7FFF is Save RAM\n" ++
      "      dbg2mlb cart.dbg out.mlb -b 0     # ROM without iNES header\n\n" ++
      "Options:\n" ++
      "  -b, --base TEXT           ROM base offset subtracted from PRG-ROM labels\n" ++
      "                            (decimal, 0x or $ hex). Mesen strips the 16-byte\n" ++
      "                            iNES header, hence the default.  [default: 0x10]\n" ++
      "  -e, --expansion-ram TEXT  How to label $6000-$7FFF: W = Work RAM, S =\n" ++
      "                            battery backed Save RAM.  [default: W]\n" ++
      "  --ranges / --no-ranges    Write multi-byte symbols as address ranges.\n" ++
      "                            Default: disabled.\n" ++
      "  -v, --verbose             Verbose output\n" ++
      "  --version                 Show the version and exit.\n" ++
      "  --help                    Show this message and exit.\n"

end Inquiry

/-- The library that the command uses. -/
def Toolkit.standard : Toolkit where
  parse := Arguments.ofWords
  check := fileFault?
  setting := settingText
  plain := Text.withoutControlSequences
  refuse := UsageError.exit
  answer := Inquiry.text
  parse_verbose := Arguments.ofWords_verbose
  leavesFiles_check := leavesFiles_fileFault?
  plain_sublist := Text.withoutControlSequences_sublist
  plain_eq_self := Text.withoutControlSequences_eq_self
  code_refuse := UsageError.code_exit
  stdout_refuse := UsageError.stdout_exit

section

variable {m : Type → Type} [Monad m]

/-- The instruction of the command's words. -/
def Instruction.ofWords (disk : Disk m) (environment : Environment) (words : List String) :
    m Instruction :=
  Toolkit.standard.instruct disk environment words

/-- Follow an instruction. -/
def Instruction.carryOut (disk : Disk m) (instruction : Instruction) : m Exit :=
  Toolkit.standard.carryOut disk instruction

/-- Run the command. -/
def run (disk : Disk m) (environment : Environment) (words : List String) : m Exit :=
  Toolkit.standard.run disk environment words

end

/-- The end that a failure comes to. -/
def Exit.ofFailure (verbose : Bool) (trace : String) (failure : Failure) : Exit :=
  Toolkit.standard.fail verbose trace failure

end CommandLine
end DebugLabels
