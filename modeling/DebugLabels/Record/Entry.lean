import DebugLabels.Failure
import DebugLabels.Record.Fields

/-!
# Entries of a table

A record that is kept by id becomes an entry: its id, its fields as they were written, and where it
stood. Fields are read as numbers only when they are asked for, so a field that nobody asks for may
hold anything.

Reading a field fails with a malformed record, at the place of the entry: the field is missing, or
it is no number, or no list of ids. A list of ids is decimal numbers joined by `+`; blank parts of
it do not count.
-/

namespace DebugLabels

/-- An entry of a table. -/
structure Entry (table : Table) where
  id : Int
  fields : Fields
  location : Option Location
  deriving DecidableEq

/-- A field's text as a number. -/
def Radix.field? : Radix → String → Option Int
  | .decimal => Numeral.decimal?
  | .hexadecimal => Numeral.hex?

/-- The ids of a text that is a list of ids. -/
def idList? (text : String) : Option (List Int) :=
  ((Text.splitOn '+' text.toList).filter fun part => !part.all Text.isBlank).mapM fun part =>
    Numeral.decimal? (String.ofList part)

namespace Entry

variable {table : Table}

/-- The failure of an entry that cannot be used. -/
def malformed (entry : Entry table) (cause : Malformation) : Failure :=
  .ofError (.malformed cause entry.location)

/-- There is a field with the key. -/
def has (entry : Entry table) (key : String) : Bool := entry.fields.contains key

/-- The field with the key, if there is one. -/
def get? (entry : Entry table) (key : String) : Option String := entry.fields.get? key

/-- The field with the key, which must be there. -/
def require (entry : Entry table) (key : String) : Except Failure String :=
  match entry.get? key with
  | some raw => .ok raw
  | none => .error (entry.malformed (.fieldMissing table entry.id key))

/-- The field with the key as a number. -/
def number (entry : Entry table) (radix : Radix) (key : String) : Except Failure Int := do
  let raw ← entry.require key
  match radix.field? raw with
  | some n => return n
  | none => throw (entry.malformed (.numberUnreadable table entry.id key radix raw))

/-- The field with the key as a list of ids. -/
def idList (entry : Entry table) (key : String) : Except Failure (List Int) := do
  let raw ← entry.require key
  match idList? raw with
  | some ids => return ids
  | none => throw (entry.malformed (.idListUnreadable table entry.id key raw))

/-- The field with the key as a decimal number, if there is such a field. -/
def decimalIfPresent (entry : Entry table) (key : String) : Except Failure (Option Int) :=
  if entry.has key then some <$> entry.number .decimal key else .ok none

/-- Reading a number succeeds exactly with the number of a field that is there. -/
theorem number_eq_ok_iff {entry : Entry table} {radix : Radix} {key : String} {n : Int} :
    entry.number radix key = .ok n ↔
      ∃ raw, entry.get? key = some raw ∧ radix.field? raw = some n := by
  unfold number require
  cases entry.get? key with
  | none => simp [bind, Except.bind]
  | some raw =>
    cases h : radix.field? raw <;> simp [bind, Except.bind, pure, Except.pure, h, throw,
      throwThe, MonadExceptOf.throw]

/-- Reading a list of ids succeeds exactly with the ids of a field that is there. -/
theorem idList_eq_ok_iff {entry : Entry table} {key : String} {ids : List Int} :
    entry.idList key = .ok ids ↔
      ∃ raw, entry.get? key = some raw ∧ idList? raw = some ids := by
  unfold idList require
  cases entry.get? key with
  | none => simp [bind, Except.bind]
  | some raw =>
    cases h : idList? raw <;> simp [bind, Except.bind, pure, Except.pure, h, throw,
      throwThe, MonadExceptOf.throw]

end Entry

/-- Blank parts do not count, a second sign does. -/
example : idList? "+ 3++1 +" = some [3, 1] ∧ idList? "" = some [] ∧ idList? "3+-1" = some [3, -1] ∧
    idList? "3 1" = none := by
  cbv
  exact ⟨rfl, rfl, trivial⟩

end DebugLabels
