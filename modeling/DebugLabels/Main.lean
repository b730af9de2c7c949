import DebugLabels.CommandLine.Run

/-!
# The command

The command reads its words and environment, runs on the files of the machine, and writes what is
left behind: its two outputs and its exit code.
-/

namespace DebugLabels
namespace CommandLine

/-- Why the machine does not open a file. -/
def reasonOf : IO.Error → FileReason
  | .noFileOrDirectory .. => .notFound
  | .inappropriateType _ code details =>
    if code = 20 then .notDirectory else if code = 21 then .isDirectory else .other details
  | .permissionDenied _ _ details | .resourceExhausted _ _ details | .invalidArgument _ _ details
  | .alreadyExists _ _ details | .resourceBusy _ details | .hardwareFault _ details =>
    .other details
  | error => .other (toString error)

/-- Do something with a file of the machine. -/
def attempt {α : Type} (action : IO α) : IO (Except FileReason α) := do
  try
    return .ok (← action)
  catch error =>
    return .error (reasonOf error)

/-- The first byte of a file. -/
def firstByte (text : String) : IO ByteArray := do
  let handle ← IO.FS.Handle.mk text .read
  handle.read 1

/-- The text leads to a directory of the machine, which opens but does not read. -/
def isMachineDirectory (text : String) : IO Bool := do
  match ← attempt (firstByte text) with
  | .error .isDirectory => return true
  | _ => return false

/-- The files of the machine. -/
def machine : Disk IO where
  isDirectory := isMachineDirectory
  read path := attempt (IO.FS.readBinFile path.text)
  write path content := attempt (IO.FS.writeBinFile path.text content)

end CommandLine
end DebugLabels

open DebugLabels.CommandLine in
/-- Run the command with the machine's words, environment and files. -/
def main (words : List String) : IO UInt32 := do
  let environment : Environment := {
    base := ← IO.getEnv "DBG2MLB_BASE"
    ram := ← IO.getEnv "DBG2MLB_EXPANSION_RAM" }
  let exit ← run machine environment words
  (← IO.getStdout).putStr exit.stdout
  (← IO.getStderr).putStr exit.stderr
  return exit.code.toUInt32
