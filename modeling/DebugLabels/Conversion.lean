import DebugLabels.Files
import DebugLabels.Listing
import DebugLabels.Store.Reading
import DebugLabels.Text.Utf8

/-!
# Converting files

`convertFile` reads a debug file, lists its labels and writes the label file, if one is wanted. The
label file is opened only when the listing is complete, so a conversion that fails before that
leaves every file as it was.
-/

namespace DebugLabels

/-- The characters of a debug file, with line feeds as its line ends. -/
def debugFileText (content : ByteArray) : List Char :=
  Text.unifyLineEnds (Text.ofUtf8 content).toList

/-- The failure of a file that cannot be opened. That a path holds U+0000 is no fault of the file. -/
def fileFailure (action : FileAction) (path : Path) : FileReason → Failure
  | .nullCharacter => .internal FileReason.nullCharacter.text
  | reason => .ofError (.file action path.text reason.text)

/-- What is read of a debug file, or why it cannot be opened. -/
def storeOfFile (path : Path) (content : Except FileReason ByteArray) : Logged Store := do
  Logged.note (.reading path.text)
  match content with
  | .error reason => Logged.ofExcept (.error (fileFailure .readDebugFile path reason))
  | .ok content => (Reading.readText .empty path.name (debugFileText content)).result

/-- What is told after a label file is written, or why it cannot be written. -/
def labelFileWritten (path : Path) (result : Except FileReason Unit) : Logged Unit :=
  match result with
  | .error reason => Logged.ofExcept (.error (fileFailure .writeLabelFile path reason))
  | .ok () => Logged.note (.wrote path.text)

section

variable {m : Type → Type} [Monad m]

/-- Read a debug file. -/
def readDebugFile (disk : Disk m) (path : Path) : m (Logged Store) := do
  return storeOfFile path (← disk.read path)

/-- Write the lines of a label file. -/
def writeLabelFile (disk : Disk m) (lines : List String) (path : Path) : m (Logged Unit) := do
  return labelFileWritten path (← disk.write path (Listing.fileText lines).toUTF8)

/-- Convert a debug file to a label file, or only to a listing if no label file is wanted. -/
def convertFile (disk : Disk m) (input : Path) (output : Option Path) (settings : Settings) :
    m (Logged Listing) := do
  let listing := (← readDebugFile disk input) >>= fun store => store.listing settings
  let finish (listing : Listing) : Logged Listing := do
    Logged.note (.converted input.name listing.describe)
    return listing
  match listing.outcome, output with
  | .ok complete, some output =>
    let written ← writeLabelFile disk complete.lines output
    return listing >>= fun complete => written >>= fun _ => finish complete
  | _, _ => return listing >>= finish

end

end DebugLabels
