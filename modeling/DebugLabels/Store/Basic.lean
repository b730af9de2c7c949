import Std.Data.ExtTreeMap
import DebugLabels.Record.Segment
import DebugLabels.Record.Symbol

/-!
# The store of records

A `Store` holds what has been read of a debug file: the version and the info record, one table of
entries by id for each `Table`, and how many records of the other kinds there were.

`find?` looks an entry up and `get` does so for a referrer, who is named if there is no such entry.
The symbols are listed by ascending id. Look-ups see exactly what was put (`find?_put`), and two
tables with the same look-ups are equal, in whatever order they were filled.
-/

namespace DebugLabels

/-- The entries of a table by id. -/
abbrev EntryTable (table : Table) := Std.ExtTreeMap Int (Entry table)

/-- What has been read of a debug file. -/
structure Store where
  version : Fields
  info : Fields
  /-- How many records of each discarded kind there were, in the order in which they were met. -/
  discarded : List (DiscardedKind × Nat)
  files : EntryTable .file
  scopes : EntryTable .scope
  segments : EntryTable .segment
  spans : EntryTable .span
  symbolTable : EntryTable .symbol

namespace Store

/-- Nothing has been read. -/
def empty : Store := ⟨.empty, .empty, [], ∅, ∅, ∅, ∅, ∅⟩

/-- The entries of a table. -/
def entries (store : Store) : (table : Table) → EntryTable table
  | .file => store.files
  | .scope => store.scopes
  | .segment => store.segments
  | .span => store.spans
  | .symbol => store.symbolTable

/-- The store with one entry put under its id, in place of any that was there. -/
def put (store : Store) : {table : Table} → Entry table → Store
  | .file, entry => { store with files := store.files.insert entry.id entry }
  | .scope, entry => { store with scopes := store.scopes.insert entry.id entry }
  | .segment, entry => { store with segments := store.segments.insert entry.id entry }
  | .span, entry => { store with spans := store.spans.insert entry.id entry }
  | .symbol, entry => { store with symbolTable := store.symbolTable.insert entry.id entry }

/-- The store without the entries of its tables. -/
def clear (store : Store) : Store :=
  { store with files := ∅, scopes := ∅, segments := ∅, spans := ∅, symbolTable := ∅ }

/-- The entry of a table under an id. -/
def find? (store : Store) (table : Table) (id : Int) : Option (Entry table) :=
  (store.entries table)[id]?

/-- The entry of a table under an id that a referrer asks for. -/
def get (store : Store) (table : Table) (id : Int) (referrer : Option Mention) :
    Except Failure (Entry table) :=
  match store.find? table id with
  | some entry => .ok entry
  | none => .error (.ofError (.missing (some table) id referrer))

/-- The symbols by ascending id. -/
def symbols (store : Store) : List Symbol := store.symbolTable.toList.map Prod.snd

/-- The segments by ascending id. -/
def segmentList (store : Store) : List Segment := store.segments.toList.map Prod.snd

/-- One more record of a discarded kind. -/
def tally (kind : DiscardedKind) : List (DiscardedKind × Nat) → List (DiscardedKind × Nat)
  | [] => [(kind, 1)]
  | (other, count) :: rest =>
    if other = kind then (other, count + 1) :: rest else (other, count) :: tally kind rest

/-- How many records of a kind there are: entries of a table, or discarded records. -/
def count (store : Store) : Kind → Nat
  | .version | .info => 0
  | .table table => (store.entries table).size
  | .discarded kind => (store.discarded.lookup kind).getD 0

/-- The counts of all tables and of the discarded kinds that were met, by name. -/
def summary (store : Store) : List (String × Nat) :=
  (Table.all.map fun table => (table.name, store.count (.table table))) ++
    store.discarded.map fun (kind, count) => (kind.name, count)

/-- The version of the file in words. -/
def banner (store : Store) : String :=
  if store.version = .empty then "CC65 Debug (unknown version)"
  else "CC65 Debug v" ++ (store.version.get? "major").getD "?" ++ "." ++
    (store.version.get? "minor").getD "?"

@[simp] theorem find?_empty (table : Table) (id : Int) : empty.find? table id = none := by
  cases table <;> simp [find?, entries, empty]

@[simp] theorem find?_clear (store : Store) (table : Table) (id : Int) :
    store.clear.find? table id = none := by
  cases table <;> simp [find?, entries, clear]

/-- In the table of the entry, its id finds it and other ids find what they found before. -/
theorem find?_put (store : Store) {table : Table} (entry : Entry table) (id : Int) :
    (store.put entry).find? table id =
      if entry.id = id then some entry else store.find? table id := by
  cases table <;> simp [find?, entries, put, Std.ExtTreeMap.getElem?_insert]

/-- Other tables are left alone. -/
theorem find?_put_of_ne (store : Store) {table other : Table} (entry : Entry table)
    (h : table ≠ other) (id : Int) :
    (store.put entry).find? other id = store.find? other id := by
  cases table <;> cases other <;> simp_all [find?, entries, put]

/-- The symbols that are listed are those that are found. -/
theorem mem_symbols {store : Store} {symbol : Symbol} :
    symbol ∈ store.symbols ↔ ∃ id, store.find? .symbol id = some symbol := by
  simp only [symbols, List.mem_map, find?, entries]
  constructor
  · rintro ⟨⟨id, entry⟩, hmem, rfl⟩
    exact ⟨id, Std.ExtTreeMap.mem_toList_iff_getElem?_eq_some.1 hmem⟩
  · rintro ⟨id, h⟩
    exact ⟨(id, symbol), Std.ExtTreeMap.mem_toList_iff_getElem?_eq_some.2 h, rfl⟩

theorem lookup_tally (kind other : DiscardedKind) (counts : List (DiscardedKind × Nat)) :
    ((tally kind counts).lookup other).getD 0 =
      (counts.lookup other).getD 0 + if other = kind then 1 else 0 := by
  induction counts with
  | nil => by_cases h : other = kind <;> simp [tally, List.lookup_cons, h, beq_false_of_ne]
  | cons pair counts ih =>
    obtain ⟨k, n⟩ := pair
    by_cases hk : k = kind
    · subst hk
      by_cases h : other = k <;> simp [tally, List.lookup_cons, h, beq_false_of_ne]
    · by_cases h : other = k
      · subst h
        simp [tally, hk]
      · simp only [tally, hk, if_false, List.lookup_cons, beq_false_of_ne h]
        exact ih

end Store
end DebugLabels
