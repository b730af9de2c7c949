import DebugLabels.Logged
import DebugLabels.Store.Basic

/-!
# Recording

`Recording.record` takes one record into a store.

* A name that is no kind's is an error; the fields are not looked at.
* `version` replaces the version and tells its banner, and warns of a version that is unreadable or
  older than 2.0.
* `info` comes before the tables: it replaces the info and empties them.
* A record of a table needs an id: a decimal number that is not negative. It replaces an entry that
  has its id, with a warning.
* Any other record is counted.

A step of recording works on a `Ledger`, which it leaves also if it fails. `Store.record` is the
whole of it as a step with the store as its outcome.
-/

namespace DebugLabels

/-- A store that is being filled, and what has been told on the way. -/
structure Ledger where
  store : Store
  notices : List Notice

/-- A step of recording. It changes the store and gives notices as it goes, and a step that fails
takes none of it back. -/
abbrev Recording (α : Type) := ExceptT Failure (StateM Ledger) α

/-- The major and the minor number of a version, if both are decimal numbers. -/
def Store.versionNumbers? (fields : Fields) : Option (Int × Int) := do
  let major ← Numeral.decimal? ((fields.get? "major").getD "")
  let minor ← Numeral.decimal? ((fields.get? "minor").getD "")
  return (major, minor)

/-- What a version record is warned of. -/
def Store.versionWarnings (fields : Fields) : List Notice :=
  match versionNumbers? fields with
  | none => [.versionUnreadable fields]
  | some (major, minor) =>
    if major < 2 ∨ (major = 2 ∧ minor < 0) then [.versionTooOld major minor] else []

/-- The id that a record of a table has, which must be a decimal number and not negative. -/
def Store.entryId (table : Table) (fields : Fields) : Except Malformation Int :=
  match fields.get? "id" with
  | none => .error (.idMissing table)
  | some raw =>
    match Numeral.decimal? raw with
    | none => .error (.idUnreadable table raw)
    | some id => if id < 0 then .error (.idNegative table id) else .ok id

namespace Recording

/-- Give notices. -/
def tell (notices : List Notice) : Recording Unit :=
  modify fun ledger => { ledger with notices := ledger.notices ++ notices }

/-- Change the store. -/
def change (f : Store → Store) : Recording Unit :=
  modify fun ledger => { ledger with store := f ledger.store }

/-- Fail with an error. -/
def fail (error : Error) : Recording Unit := throw (.ofError error)

/-- Take in the version. -/
def version (fields : Fields) : Recording Unit := do
  change fun store => { store with version := fields }
  tell [.version (← get).store.banner]
  tell (Store.versionWarnings fields)

/-- Take in the info, which starts the tables afresh. -/
def info (fields : Fields) : Recording Unit := do
  change fun store => { store.clear with info := fields }
  tell [.info fields]

/-- Take in a record of a table. -/
def entry (table : Table) (fields : Fields) (location : Option Location) : Recording Unit :=
  match Store.entryId table fields with
  | .error cause => fail (.malformed cause location)
  | .ok id => do
    if ((← get).store.find? table id).isSome then tell [.duplicate table id]
    change fun store => store.put (⟨id, fields, location⟩ : Entry table)

/-- Count a record that is not kept. -/
def discarded (kind : DiscardedKind) : Recording Unit :=
  change fun store => { store with discarded := Store.tally kind store.discarded }

/-- Take in a record of a known kind. -/
def ofKind (kind : Kind) (text : String) (location : Option Location) : Recording Unit := do
  let fields := Fields.decode text
  tell ((Fields.keysWithoutValue text).map .valueless)
  match kind with
  | .version => version fields
  | .info => info fields
  | .table table => entry table fields location
  | .discarded kind => discarded kind

/-- Take in a record by the name of its kind. -/
def record (name text : String) (location : Option Location) : Recording Unit :=
  match Kind.ofName? name with
  | none => fail (.unknownKind name location)
  | some kind => ofKind kind text location

/-- Carry out a step on a store: its outcome, and the ledger that it leaves. -/
def runOn {α : Type} (step : Recording α) (store : Store) : Except Failure α × Ledger :=
  (ExceptT.run step).run ⟨store, []⟩

end Recording

/-- Take in a record, with the store as the outcome. -/
def Store.record (store : Store) (name text : String) (location : Option Location) :
    Logged Store :=
  let (outcome, left) := (Recording.record name text location).runOn store
  ⟨left.notices, outcome.map fun () => left.store⟩

end DebugLabels
