import DebugLabels.CommandLine.Toolkit
import DebugLabels.Conversion

/-!
# The command

The command's words and environment make a `Request`, or they are wrong, or they ask for a text
about the command (`Toolkit.instruct`). A request is carried out in this order: the settings, the
path of the label file, reading, listing, writing. The first of them that fails ends the command.

Without an output path the label file stands beside the debug file, with the suffix `.mlb`. The
output path `-` is the standard output.

The error output has warnings as they are. A verbose command tells everything, each notice with its
level, and says before and after what it does.
-/

namespace DebugLabels
namespace CommandLine

/-- The settings that the environment gives, as texts. -/
structure Environment where
  base : Option String := none
  ram : Option String := none
  deriving DecidableEq, Repr

/-- What the command is asked to do. -/
structure Request where
  input : Path
  output : Option Path
  base : String
  ram : String
  ranges : Bool
  verbose : Bool
  deriving DecidableEq, Repr

/-- What becomes of the words of a command. -/
inductive Instruction
  | convert (request : Request)
  | inquire (inquiry : Inquiry)
  | refuse (error : UsageError)
  deriving DecidableEq, Repr

/-- Where the labels go. -/
inductive Destination
  | stdout
  | file (path : Path)
  deriving DecidableEq, Repr

namespace Destination

/-- The path `-` is the standard output. -/
def ofPath (path : Path) : Destination := if path.text = "-" then .stdout else .file path

/-- The destination in words. -/
def text : Destination → String
  | stdout => "stdout"
  | file path => path.text

end Destination

namespace Request

/-- The path that the labels go to. -/
def outputPath (request : Request) : Except Failure Path :=
  match request.output with
  | some path => .ok path
  | none =>
    match request.input.withSuffix? ".mlb" with
    | some path => .ok path
    | none => .error (.emptyName request.input.text)

/-- The settings, and where the labels go. -/
def prepare (request : Request) : Except Failure (Settings × Destination) := do
  let settings ← Settings.ofTexts (some request.base) (some request.ram) request.ranges
  let path ← request.outputPath
  return (settings, .ofPath path)

end Request

/-- What is said before reading. -/
def opening (request : Request) (settings : Settings) : List String :=
  ["Base offset: 0x" ++ Numeral.upperHex settings.base,
    "$6000-$7FFF: " ++ settings.ram.description,
    "Reading " ++ request.input.text ++ "..."]

/-- Counts by name, in the order of the names. -/
def sortedCounts (counts : List (String × Nat)) : List (String × Nat) :=
  counts.mergeSort fun a b => a.1 ≤ b.1

/-- What is said after everything is done. -/
def closing (store : Store) (listing : Listing) (destination : Destination) : List String :=
  let counts := (sortedCounts store.summary).map fun (name, count) =>
    name ++ "=" ++ Numeral.decimal count
  [listing.banner,
    "Records: " ++ ", ".intercalate counts,
    "Wrote " ++ listing.describe ++ " to " ++ destination.text]

/-- A notice on the error output. -/
def noticeLine (verbose : Bool) (notice : Notice) : String :=
  if verbose then notice.level.name ++ ": " ++ notice.message ++ "\n" else notice.message ++ "\n"

/-- Notices on the error output: all of them if the command is verbose, and else the warnings. -/
def noticeLines (verbose : Bool) (notices : List Notice) : String :=
  String.join ((Notice.atLeast (if verbose then .debug else .warning) notices).map
    (noticeLine verbose))

/-- The store and the listing of what was read. -/
def listed (settings : Settings) (store : Logged Store) : Logged (Store × Listing) := do
  let store ← store
  let listing ← store.listing settings
  return (store, listing)

namespace Toolkit

variable (kit : Toolkit)

/-- The request of arguments with an input file and perhaps an output file. -/
def request (environment : Environment) (arguments : Arguments) (input : String)
    (output : Option String) : Request where
  input := Path.ofText input
  output := output.map Path.ofText
  base := kit.setting arguments.base environment.base "0x10"
  ram := kit.setting arguments.ram environment.ram "W"
  ranges := arguments.ranges
  verbose := arguments.verbose

/-- The instruction of an input file and what is named after it, unless one of the two files is at
fault. -/
def instructionOf (environment : Environment) (arguments : Arguments) (input : String)
    (rest : List String) : (fault : Option UsageError) → Instruction
  | some fault => .refuse fault
  | none =>
    match rest.tail with
    | [] => .convert (kit.request environment arguments input rest.head?)
    | extra => .refuse (.tooManyFiles extra)

/-- The lines that are told if the command is verbose. -/
def echoIf (verbose : Bool) (lines : List String) : String :=
  if verbose then String.join (lines.map kit.echo) else ""

/-- The end of a command that got as far as its outcome. -/
def finish (request : Request) (settings : Settings) (destination : Destination)
    (outcome : Logged (Store × Listing)) : Exit :=
  let told := kit.echoIf request.verbose (opening request settings) ++
    noticeLines request.verbose outcome.notices
  match outcome.outcome with
  | .error failure =>
    ⟨exitCode failure, "", told ++ kit.tell request.verbose "" failure⟩
  | .ok (store, listing) =>
    ⟨0,
      match destination with
      | .stdout => String.join (listing.lines.map kit.echo)
      | .file _ => "",
      told ++ kit.echoIf request.verbose (closing store listing destination)⟩

section

variable {m : Type → Type} [Monad m]

/-- What is wrong with an input file and perhaps an output file, if anything is. A dash as the output
file is no file. -/
def firstFault (disk : Disk m) (input : String) (output : Option String) :
    m (Option UsageError) := do
  if let some fault ← kit.check disk "INPUT_FILE" input then return some fault
  match output with
  | some output => if output = "-" then return none else kit.check disk "[OUTPUT_FILE]" output
  | none => return none

/-- The instruction of the files that the arguments name. -/
def instructFiles (disk : Disk m) (environment : Environment) (arguments : Arguments) :
    m Instruction := do
  match arguments.files with
  | [] => return .refuse .inputMissing
  | input :: rest =>
    return kit.instructionOf environment arguments input rest
      (← kit.firstFault disk input rest.head?)

/-- The instruction of the command's words. -/
def instruct (disk : Disk m) (environment : Environment) (words : List String) :
    m Instruction := do
  match kit.parse words with
  | .error error => return .refuse error
  | .ok arguments =>
    match arguments.inquiry with
    | some inquiry => return .inquire inquiry
    | none => kit.instructFiles disk environment arguments

/-- Carry out a request. -/
def convert (disk : Disk m) (request : Request) : m Exit := do
  match request.prepare with
  | .error failure => return kit.fail request.verbose "" failure
  | .ok (settings, destination) =>
    let outcome := listed settings (← readDebugFile disk request.input)
    match outcome.outcome, destination with
    | .ok (_, listing), .file path =>
      let written ← writeLabelFile disk listing.lines path
      return kit.finish request settings destination do
        let done ← outcome
        let () ← written
        return done
    | _, _ => return kit.finish request settings destination outcome

/-- Follow an instruction. -/
def carryOut (disk : Disk m) : Instruction → m Exit
  | .convert request => kit.convert disk request
  | .inquire inquiry => return ⟨0, kit.answer inquiry, ""⟩
  | .refuse error => return kit.refuse error

/-- Run the command. -/
def run (disk : Disk m) (environment : Environment) (words : List String) : m Exit := do
  kit.carryOut disk (← kit.instruct disk environment words)

end

end Toolkit
end CommandLine
end DebugLabels
