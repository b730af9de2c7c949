import DebugLabels.Record.Location
import DebugLabels.Text.Blank
import DebugLabels.Text.Split

/-!
# The lines of a debug file

A line holds one record: its kind, a tab, and its fields. The kind stands without the blanks around
it; the fields are left as they are; a line without a tab has no fields. A blank line holds no
record. Line ends do not count.
-/

namespace DebugLabels

/-- A record as a line holds it. -/
structure RecordLine where
  kind : String
  fields : String
  deriving DecidableEq, Repr

/-- A record as a line of a file holds it. -/
structure LocatedRecord extends RecordLine where
  location : Location
  deriving DecidableEq, Repr

namespace RecordLine

/-- The record of a line, if the line is not blank. -/
def ofLine? (line : List Char) : Option RecordLine :=
  let line := Text.trimEnd Text.isLineEnd line
  if line.all Text.isBlank then none
  else
    let (kind, fields) := Text.cut '\t' line
    some ⟨String.ofList (Text.trim Text.isBlank kind), String.ofList (fields.getD [])⟩

/-- The records of numbered lines of a file, in order. -/
def located (file : String) (lines : List (List Char × Nat)) : List LocatedRecord :=
  lines.filterMap fun (line, number) =>
    (ofLine? line).map fun record => { record with location := ⟨file, number⟩ }

/-- The records of the lines of a file, which count from 1. -/
def ofLines (file : String) (lines : List (List Char)) : List LocatedRecord :=
  located file (lines.zipIdx 1)

/-- The records of a text. -/
def ofText (file : String) (text : List Char) : List LocatedRecord :=
  ofLines file (Text.lines text)

/-- The kind stands without blanks; the fields keep theirs. -/
example : ofLine? [' ', 's', 'y', 'm', ' ', '\t', 'i', 'd', '=', '0', ' ', '\r', '\n'] =
    some ⟨"sym", "id=0 "⟩ := by decide

/-- Blank lines hold no record but count. -/
example : ofText "a" ['x', '\n', ' ', '\n', 'y'] =
    [⟨⟨"x", ""⟩, ⟨"a", 1⟩⟩, ⟨⟨"y", ""⟩, ⟨"a", 3⟩⟩] := by decide

end RecordLine
end DebugLabels
