/-!
# Kinds of records

| name | kind | what becomes of the record |
| --- | --- | --- |
| `version`, `info` | the head of the file | the last one is kept |
| `file`, `scope`, `seg`, `span`, `sym` | a `Table` | kept by its id |
| `csym`, `lib`, `line`, `mod`, `type` | a `DiscardedKind` | counted only |

`Kind.ofName?` reads a name and `Kind.name` writes it; each undoes the other.
-/

namespace DebugLabels

/-- The kinds that are kept by id. -/
inductive Table
  | file
  | scope
  | segment
  | span
  | symbol
  deriving DecidableEq, Repr

/-- The kinds that are only counted. -/
inductive DiscardedKind
  | cSymbol
  | library
  | line
  | module
  | type
  deriving DecidableEq, Repr

/-- The kinds of records. -/
inductive Kind
  | version
  | info
  | table (table : Table)
  | discarded (kind : DiscardedKind)
  deriving DecidableEq, Repr

namespace Table

/-- The name that starts a record of the table. -/
def name : Table → String
  | file => "file"
  | scope => "scope"
  | segment => "seg"
  | span => "span"
  | symbol => "sym"

/-- The tables, in the order in which they are summed up. -/
def all : List Table := [file, scope, segment, span, symbol]

theorem mem_all (table : Table) : table ∈ all := by cases table <;> decide

/-- The table of a name. -/
def ofName? (name : String) : Option Table := all.find? fun table => table.name == name

end Table

namespace DiscardedKind

/-- The name that starts a record of the kind. -/
def name : DiscardedKind → String
  | cSymbol => "csym"
  | library => "lib"
  | line => "line"
  | module => "mod"
  | type => "type"

/-- The discarded kinds. -/
def all : List DiscardedKind := [cSymbol, library, line, module, type]

end DiscardedKind

namespace Kind

/-- The name that starts a record of the kind. -/
def name : Kind → String
  | version => "version"
  | info => "info"
  | table t => t.name
  | discarded k => k.name

/-- All twelve kinds. -/
def all : List Kind := [version, info] ++ Table.all.map table ++ DiscardedKind.all.map discarded

/-- The kind of a name, exactly as written. -/
def ofName? (name : String) : Option Kind := all.find? fun kind => kind.name == name

/-- Records of the kind are kept by id. -/
def isIndexed : Kind → Bool
  | table _ => true
  | _ => false

/-- Records of the kind are counted and not kept. -/
def isDiscarded : Kind → Bool
  | discarded _ => true
  | _ => false

/-- A kind is found by its name. -/
theorem ofName?_name (kind : Kind) : ofName? kind.name = some kind := by
  rcases kind with _ | _ | table | kind
  · decide
  · decide
  · cases table <;> decide
  · cases kind <;> decide

theorem name_of_ofName? {name : String} {kind : Kind} (h : ofName? name = some kind) :
    kind.name = name := by
  simpa using List.find?_some h

/-- A name is that of a kind exactly if the kind is found by it. -/
theorem ofName?_eq_some_iff {name : String} {kind : Kind} :
    ofName? name = some kind ↔ name = kind.name :=
  ⟨fun h => (name_of_ofName? h).symm, fun h => h ▸ ofName?_name kind⟩

end Kind
end DebugLabels
