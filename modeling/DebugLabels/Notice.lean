import DebugLabels.Numeral
import DebugLabels.Record.Fields
import DebugLabels.Record.Mention

/-!
# What a conversion tells while it runs

A `Notice` is something worth telling that does not stop the conversion. Each has a level, by which
listeners choose what they hear, and a wording.

| level | notices |
| --- | --- |
| debug | a field without a value, the info record, what is read, written, skipped and placed |
| info | the version of a file, a finished conversion |
| warning | a version that is unreadable or too old, a record that replaces another |
-/

namespace DebugLabels

/-- How much a notice matters. -/
inductive Level
  | debug
  | info
  | warning
  | error
  deriving DecidableEq, Repr

namespace Level

/-- The place of a level among the levels, the least important first. -/
def rank : Level → Nat
  | debug => 0
  | info => 1
  | warning => 2
  | error => 3

/-- The name of the level. -/
def name : Level → String
  | debug => "DEBUG"
  | info => "INFO"
  | warning => "WARNING"
  | error => "ERROR"

/-- The level of a name. -/
def ofName? (name : String) : Option Level :=
  [debug, info, warning, error].find? fun level => level.name == name

end Level

/-- Something worth telling. -/
inductive Notice
  /-- A field is written without a value. -/
  | valueless (key : String)
  /-- The version of a file, as its banner. -/
  | version (banner : String)
  | versionUnreadable (fields : Fields)
  | versionTooOld (major minor : Int)
  | info (fields : Fields)
  /-- A record replaces an earlier one with its id. -/
  | duplicate (table : Table) (id : Int)
  | reading (path : String)
  /-- A file is read; the counts of its records. -/
  | read (file : String) (summary : List (String × Nat))
  /-- A symbol is no label. -/
  | skipped (symbol : Mention) (type : Option String)
  /-- A symbol's segment is found, with its start and its offset if it is in the ROM image. -/
  | placed (symbol : Mention) (scope span segment : Int) (place : Option (Int × Int))
  | wrote (path : String)
  | converted (file description : String)
  deriving DecidableEq

namespace Notice

/-- The level of a notice. -/
def level : Notice → Level
  | version _ | converted _ _ => .info
  | versionUnreadable _ | versionTooOld _ _ | duplicate _ _ => .warning
  | valueless _ | info _ | reading _ | read _ _ | skipped _ _ | placed _ _ _ _ _ | wrote _ => .debug

/-- Counts as a notice shows them. -/
def shownCounts (counts : List (String × Nat)) : String :=
  let counts := counts.map fun (name, count) => Text.quoted name ++ ": " ++ Numeral.decimal count
  "\x7b" ++ ", ".intercalate counts ++ "\x7d"

/-- The notice in words. -/
def message : Notice → String
  | valueless key => "Field '" ++ key ++ "' has no value, treating as empty"
  | version banner => banner
  | versionUnreadable fields => "Unreadable debug file version: " ++ fields.shown
  | versionTooOld major minor =>
    "Debug file version " ++ Numeral.decimal major ++ "." ++ Numeral.decimal minor ++
      " is older than 2.0"
  | info fields => "Debug file info: " ++ fields.shown
  | duplicate table id =>
    "Duplicate " ++ table.name ++ " id " ++ Numeral.decimal id ++ ", keeping the later record"
  | reading path => "Reading debug file " ++ path
  | read file summary => "Read " ++ file ++ ": " ++ shownCounts summary
  | skipped symbol type => "Skipping " ++ symbol.shown ++ " of type " ++ type.getD "None"
  | placed symbol scope span segment place =>
    let place := match place with
      | some (start, offset) =>
        "(start $" ++ Numeral.address start ++ ", ooffs " ++ Numeral.decimal offset ++ ")"
      | none => "(not in output image)"
    symbol.shown ++ ": scope " ++ Numeral.decimal scope ++ " -> span " ++ Numeral.decimal span ++
      " -> seg " ++ Numeral.decimal segment ++ " " ++ place
  | wrote path => "Wrote " ++ path
  | converted file description => "Converted " ++ file ++ ": " ++ description

/-- The notices at a level or above it. -/
def atLeast (level : Level) (notices : List Notice) : List Notice :=
  notices.filter fun notice => level.rank ≤ notice.level.rank

end Notice
end DebugLabels
