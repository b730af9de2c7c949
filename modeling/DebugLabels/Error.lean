import DebugLabels.Numeral
import DebugLabels.Record.Kind
import DebugLabels.Record.Location
import DebugLabels.Record.Mention

/-!
# What can go wrong

An `Error` is a cause: a record that cannot be used, a symbol that cannot be placed, a file that
cannot be accessed, or settings that make no sense. `Error.message` words it, `Error.category`
says what sort it is, and `Error.numbers` lists the numbers that the wording shows in decimal.

An error about a record is worded

    cart.dbg:42: error: scope 3 has an empty span list
    hint: what to do about it

with the location and the hint where there are any.
-/

namespace DebugLabels

/-- What makes a record unusable. -/
inductive Malformation
  /-- A record that is kept by id has none. -/
  | idMissing (table : Table)
  | idUnreadable (table : Table) (raw : String)
  | idNegative (table : Table) (id : Int)
  | fieldMissing (table : Table) (id : Int) (key : String)
  | numberUnreadable (table : Table) (id : Int) (key : String) (radix : Radix) (raw : String)
  | idListUnreadable (table : Table) (id : Int) (key raw : String)
  | spanListEmpty (scope : Int)
  /-- Any other fault, in words. -/
  | other (message : String)
  deriving DecidableEq, Repr

/-- What is wrong with a debug file. -/
inductive RecordFault
  /-- A record starts with a name that is no kind's. -/
  | unknownKind (name : String)
  | malformed (cause : Malformation)
  /-- A fault of the file's content, in words. -/
  | content (message : String)
  /-- A fault that has a place, in words. -/
  | other (message : String)
  deriving DecidableEq, Repr

/-- Why a symbol has no scope. -/
inductive ScopeGap
  | noScopeNoParent
  /-- The parent has no scope of its own. -/
  | parentWithoutScope (parent : Mention)
  /-- Any other reason, in words; no words give no reason. -/
  | other (reason : String)
  deriving DecidableEq, Repr

/-- Why a label in the ROM window has no place in the ROM image. -/
inductive ImageGap
  | segmentNotInImage
  | negativeOffset (offset segment base : Int)
  /-- Any other reason, in words. -/
  | other (reason : String)
  deriving DecidableEq, Repr

/-- What was done to a file when it failed. -/
inductive FileAction
  | access
  | readDebugFile
  | writeLabelFile
  deriving DecidableEq, Repr

/-- What is wrong with settings. -/
inductive SettingFault
  | baseUnreadable (text : String)
  | baseNegative (base : Int)
  /-- The base offset is a value, shown here, that is no integer. -/
  | baseNotInteger (shown : String)
  | ramUnknown (text : String)
  /-- The expansion RAM is a value, shown here, that is no mode. -/
  | ramNotMode (shown : String)
  /-- Any other fault, in words. -/
  | other (message : String)
  deriving DecidableEq, Repr

/-- An error of a conversion. -/
inductive Error
  | record (fault : RecordFault) (location : Option Location) (hint : Option String)
  | unresolvedScope (symbol : Int) (name : Option String) (gap : ScopeGap)
  /-- No entry of the table has the id that the referrer asks for. -/
  | missing (table : Option Table) (id : Int) (referrer : Option Mention)
  | outsideImage (name : Option String) (address : Int) (gap : ImageGap)
  /-- An error of resolution, in words. -/
  | resolution (message : String)
  | file (action : FileAction) (path reason : String)
  | setting (fault : SettingFault)
  /-- Any other error, in words. -/
  | other (message : String)
  deriving DecidableEq, Repr

/-- The sorts of errors, which callers tell apart. -/
inductive Category
  | general
  | located
  | debugFile
  | unknownKind
  | malformedRecord
  | resolution
  | unresolvedScope
  | missing (table : Option Table)
  | outsideImage
  | file (action : FileAction)
  | setting
  deriving DecidableEq, Repr

namespace Malformation

/-- The fault in words. -/
def message : Malformation → String
  | idMissing table => table.name ++ " record has no id"
  | idUnreadable table raw => table.name ++ " record has a non-numeric id '" ++ raw ++ "'"
  | idNegative table id => table.name ++ " record has a negative id " ++ Numeral.decimal id
  | fieldMissing table id key =>
    table.name ++ " " ++ Numeral.decimal id ++ " has no '" ++ key ++ "' field"
  | numberUnreadable table id key radix raw =>
    let description := match radix with
      | .decimal => "decimal"
      | .hexadecimal => "hex"
    table.name ++ " " ++ Numeral.decimal id ++ " field '" ++ key ++ "' is not a " ++ description ++
      " number: '" ++ raw ++ "'"
  | idListUnreadable table id key raw =>
    table.name ++ " " ++ Numeral.decimal id ++ " field '" ++ key ++ "' is not an id list: '" ++
      raw ++ "'"
  | spanListEmpty scope => "scope " ++ Numeral.decimal scope ++ " has an empty span list"
  | other message => message

/-- The numbers that the words show in decimal. -/
def numbers : Malformation → List Int
  | idNegative _ id | fieldMissing _ id _ | numberUnreadable _ id _ _ _
  | idListUnreadable _ id _ _ | spanListEmpty id => [id]
  | idMissing _ | idUnreadable _ _ | other _ => []

end Malformation

namespace RecordFault

/-- The fault in words. -/
def message : RecordFault → String
  | unknownKind name => "unknown record kind '" ++ name ++ "'"
  | malformed cause => cause.message
  | content message | other message => message

/-- The numbers that the words show in decimal. -/
def numbers : RecordFault → List Int
  | malformed cause => cause.numbers
  | _ => []

end RecordFault

namespace ScopeGap

/-- The reason in words. -/
def reason : ScopeGap → String
  | noScopeNoParent => "no scope or parent field"
  | parentWithoutScope parent => "parent " ++ parent.shown ++ " has no scope"
  | other reason => reason

/-- The numbers that the words show in decimal. -/
def numbers : ScopeGap → List Int
  | parentWithoutScope parent => parent.numbers
  | _ => []

end ScopeGap

namespace ImageGap

/-- The reason in words. -/
def reason : ImageGap → String
  | segmentNotInImage => "belongs to a segment that is not in the ROM image"
  | negativeOffset offset segment base =>
    "resolves to negative ROM offset " ++ Numeral.decimal offset ++ " (seg " ++
      Numeral.decimal segment ++ ", base offset " ++ Numeral.decimal base ++ ")"
  | other reason => reason

/-- The numbers that the words show in decimal. -/
def numbers : ImageGap → List Int
  | negativeOffset offset segment base => [offset, segment, base]
  | _ => []

end ImageGap

namespace FileAction

/-- What could not be done. -/
def phrase : FileAction → String
  | access => "cannot access"
  | readDebugFile => "cannot read debug file"
  | writeLabelFile => "cannot write label file"

end FileAction

namespace SettingFault

/-- The fault in words. -/
def message : SettingFault → String
  | baseUnreadable text =>
    "invalid base offset '" ++ text ++ "'; use an integer such as 16 or 0x10"
  | baseNegative base => "base offset must not be negative (got " ++ Numeral.decimal base ++ ")"
  | baseNotInteger shown => "base offset must be an integer (got " ++ shown ++ ")"
  | ramUnknown text =>
    "invalid expansion RAM type '" ++ text ++ "'; use W (Work RAM) or S (Save RAM)"
  | ramNotMode shown => "invalid expansion RAM type " ++ shown
  | other message => message

/-- The numbers that the words show in decimal. -/
def numbers : SettingFault → List Int
  | baseNegative base => [base]
  | _ => []

end SettingFault

namespace Location

/-- The file and the line, as an error starts. -/
def shown (location : Location) : String :=
  location.file ++ ":" ++ Numeral.decimal location.line

/-- The number of the line can be written in decimal. -/
def IsWritable (location : Location) : Prop := Numeral.IsWritable location.line

instance (location : Location) : Decidable location.IsWritable :=
  inferInstanceAs (Decidable (Numeral.IsWritable location.line))

end Location

/-- A name that a text may lack; an empty name is none. -/
def nonEmpty? (text : Option String) : Option String := text.filter (· ≠ "")

namespace Error

/-- A record of an unknown kind, with the hint that helps most. -/
def unknownKind (name : String) (location : Option Location) : Error :=
  record (.unknownKind name) location (some "is this an ld65 debug file (ld65 --dbgfile)?")

/-- A malformed record. -/
def malformed (cause : Malformation) (location : Option Location) : Error :=
  record (.malformed cause) location none

/-- The name of a table in an error, where any table may be meant. -/
def tableName : Option Table → String
  | some table => table.name
  | none => "entry"

/-- The error in words. -/
def message : Error → String
  | record fault location hint =>
    let start := match location with
      | some location => location.shown ++ ": error: "
      | none => "error: "
    let hint := match nonEmpty? hint with
      | some hint => "\nhint: " ++ hint
      | none => ""
    start ++ fault.message ++ hint
  | unresolvedScope symbol name gap =>
    let label := match nonEmpty? name with
      | some name => "'" ++ name ++ "' (id " ++ Numeral.decimal symbol ++ ")"
      | none => "id " ++ Numeral.decimal symbol
    let reason := match nonEmpty? (some gap.reason) with
      | some reason => ": " ++ reason
      | none => ""
    "cannot determine scope of symbol " ++ label ++ reason
  | missing table id referrer =>
    let reference := match nonEmpty? (referrer.map Mention.shown) with
      | some referrer => " referenced by " ++ referrer
      | none => ""
    tableName table ++ " " ++ Numeral.decimal id ++ reference ++ " is not defined"
  | outsideImage name address gap =>
    let label := match nonEmpty? name with
      | some name => "'" ++ name ++ "'"
      | none => "<unnamed>"
    "PRG-ROM label " ++ label ++ " at $" ++ Numeral.address address ++ " " ++ gap.reason
  | resolution message | other message => message
  | file action path reason => action.phrase ++ " '" ++ path ++ "': " ++ reason
  | setting fault => fault.message

/-- The numbers that the words show in decimal. -/
def numbers : Error → List Int
  | record fault location _ => (location.map Location.line).toList ++ fault.numbers
  | unresolvedScope symbol _ gap => symbol :: gap.numbers
  | missing _ id referrer => id :: (referrer.map Mention.numbers).getD []
  | outsideImage _ _ gap => gap.numbers
  | setting fault => fault.numbers
  | resolution _ | file _ _ _ | other _ => []

/-- The sort of the error. -/
def category : Error → Category
  | record (.unknownKind _) _ _ => .unknownKind
  | record (.malformed _) _ _ => .malformedRecord
  | record (.content _) _ _ => .debugFile
  | record (.other _) _ _ => .located
  | unresolvedScope _ _ _ => .unresolvedScope
  | missing table _ _ => .missing table
  | outsideImage _ _ _ => .outsideImage
  | resolution _ => .resolution
  | file action _ _ => .file action
  | setting _ => .setting
  | other _ => .general

/-- The error is about a record and starts with its place. -/
def isLocated : Error → Bool
  | record _ _ _ => true
  | _ => false

/-- The place that the error starts with. -/
def place? : Error → Option Location
  | record _ location _ => location
  | _ => none

/-- Every number that the words show can be written in decimal. -/
def IsWritable (error : Error) : Prop := ∀ n ∈ error.numbers, Numeral.IsWritable n

instance (error : Error) : Decidable error.IsWritable :=
  inferInstanceAs (Decidable (∀ n ∈ error.numbers, Numeral.IsWritable n))

theorem isWritable_record_iff {fault : RecordFault} {location : Option Location}
    {hint : Option String} :
    (record fault location hint).IsWritable ↔
      (∀ place ∈ location, place.IsWritable) ∧ ∀ n ∈ fault.numbers, Numeral.IsWritable n := by
  cases location <;> simp [IsWritable, numbers, Location.IsWritable]

theorem isWritable_unresolvedScope_iff {symbol : Int} {name : Option String} {gap : ScopeGap} :
    (unresolvedScope symbol name gap).IsWritable ↔
      Numeral.IsWritable symbol ∧ ∀ n ∈ gap.numbers, Numeral.IsWritable n :=
  List.forall_mem_cons

theorem isWritable_missing_iff {table : Option Table} {id : Int} {referrer : Option Mention} :
    (missing table id referrer).IsWritable ↔
      Numeral.IsWritable id ∧ ∀ mention ∈ referrer, mention.IsWritable := by
  cases referrer <;> simp [IsWritable, numbers, Mention.IsWritable]

end Error
end DebugLabels
