import Mathlib.Order.Monotone.Basic
import DebugLabels.Proofs.Failures
import DebugLabels.Proofs.Growth
import DebugLabels.Proofs.WrittenNumber

/-!
# Renumbering a store

A `Renumbering` gives every entry of a store a new id: symbols and spans keep their order, scopes
and segments need only stay apart.  With the ids go the fields that refer to entries
(`Table.reference?`): a field that is a number, or a list of numbers, is written anew with the new
numbers, and a field that cannot be read stays as it is, as do all other fields.

New numbers may be too long to be written, so `Renumbering.Fits` asks that those of an entry are not.
Then every field that refers to entries is read as the new ids of what was read before
(`decimal?_number`, `idList?_numbers`), a look-up under a new id finds what the old one found
(`find?_renumbered`), and the symbols are the old ones in their order (`symbols_renumbered`).
-/

namespace DebugLabels

/-- New ids for the entries of a store, in the old order for symbols and for spans. -/
structure Renumbering where
  symbol : Nat → Nat
  span : Nat → Nat
  scope : Nat → Nat
  segment : Nat → Nat
  strictMono_symbol : StrictMono symbol
  strictMono_span : StrictMono span
  injective_scope : Function.Injective scope
  injective_segment : Function.Injective segment

/-- What a field refers to: one entry of a table, or a list of them. -/
inductive Reference
  | one (target : Table)
  | list (target : Table)

/-- The fields that refer to entries.  An entry refers to itself by its id; source files are not
looked at. -/
def Table.reference? : Table → String → Option Reference
  | .file, _ => none
  | table, "id" => some (.one table)
  | .symbol, "scope" => some (.one .scope)
  | .symbol, "parent" => some (.one .symbol)
  | .scope, "span" => some (.list .span)
  | .span, "seg" => some (.one .segment)
  | _, _ => none

/-- Fields with other values under the same keys. -/
def Fields.mapValues (f : String → String → String) (fields : Fields) : Fields :=
  ⟨fields.pairs.map fun pair => (pair.1, f pair.1 pair.2), by
    simpa [Function.comp_def] using fields.nodup⟩

theorem Fields.get?_mapValues (f : String → String → String) (fields : Fields) (key : String) :
    (fields.mapValues f).get? key = (fields.get? key).map (f key) := by
  obtain ⟨pairs, hnodup⟩ := fields
  simp only [get?, mapValues]
  clear hnodup
  induction pairs with
  | nil => rfl
  | cons pair pairs ih =>
    rw [List.map_cons, List.lookup_cons, List.lookup_cons, ih]
    by_cases h : key = pair.1
    · simp [h]
    · simp [beq_false_of_ne h]

namespace Renumbering

variable {r : Renumbering} {table target : Table}

/-! ### New ids -/

/-- The new numbers of a table; source files keep theirs. -/
def ofTable (r : Renumbering) : Table → Nat → Nat
  | .file => id
  | .scope => r.scope
  | .segment => r.segment
  | .span => r.span
  | .symbol => r.symbol

theorem injective_ofTable (r : Renumbering) (table : Table) : (r.ofTable table).Injective := by
  cases table with
  | file => exact Function.injective_id
  | scope => exact r.injective_scope
  | segment => exact r.injective_segment
  | span => exact r.strictMono_span.injective
  | symbol => exact r.strictMono_symbol.injective

/-- The new id for an id.  A negative number, which no entry has as its id, stays. -/
def newId (r : Renumbering) (table : Table) : Int → Int
  | .ofNat n => r.ofTable table n
  | .negSucc n => .negSucc n

theorem injective_newId (r : Renumbering) (table : Table) : (r.newId table).Injective := by
  intro m n h
  have hinjective := r.injective_ofTable table
  cases m <;> cases n <;> simp only [newId] at h
  · rw [hinjective (Int.ofNat.inj h)]
  · exact absurd h (by omega)
  · exact absurd h (by omega)
  · exact h

theorem newId_lt_newId (h : StrictMono (r.ofTable table)) {m n : Int} (hlt : m < n) :
    r.newId table m < r.newId table n := by
  cases m <;> cases n <;> simp only [newId]
  · exact Int.ofNat_lt.2 (h (Int.ofNat_lt.1 hlt))
  · rw [Int.ofNat_eq_natCast] at hlt
    omega
  · omega
  · exact hlt

/-- The least id of a list keeps its place, if the order is kept. -/
theorem least_map_newId (h : StrictMono (r.ofTable table)) {ids : List Int} (hne : ids ≠ []) :
    Scope.least (ids.map (r.newId table)) = r.newId table (Scope.least ids) := by
  obtain ⟨hmem, hle⟩ := (Scope.least_eq_iff hne).1 rfl
  refine (Scope.least_eq_iff (by simpa using hne)).2 ⟨List.mem_map_of_mem hmem, fun m hm => ?_⟩
  obtain ⟨n, hn, rfl⟩ := List.mem_map.1 hm
  rcases Int.lt_or_eq_of_le (hle n hn) with hlt | heq
  · exact Int.le_of_lt (newId_lt_newId h hlt)
  · exact Int.le_of_eq (congrArg (r.newId table) heq)

/-! ### Fields -/

/-- A number with its new value. -/
def number (r : Renumbering) (target : Table) (raw : String) : String :=
  match Numeral.decimal? raw with
  | some n => Numeral.decimal (r.newId target n)
  | none => raw

/-- A part of a list with its new value. -/
def part (r : Renumbering) (target : Table) (cs : List Char) : List Char :=
  (r.number target (String.ofList cs)).toList

/-- A list of numbers with their new values. -/
def numbers (r : Renumbering) (target : Table) (raw : String) : String :=
  String.ofList (List.intercalate ['+'] ((Text.splitOn '+' raw.toList).map (r.part target)))

/-- The value of a field with the new ids of what it refers to. -/
def value (r : Renumbering) (table : Table) (key raw : String) : String :=
  match table.reference? key with
  | some (.one target) => r.number target raw
  | some (.list target) => r.numbers target raw
  | none => raw

/-- An entry with its new id and the new ids of what it refers to. -/
def entry (r : Renumbering) (entry : Entry table) : Entry table :=
  ⟨r.newId table entry.id, entry.fields.mapValues (r.value table), entry.location⟩

/-- The new value of a text that is a number can be written. -/
def FitsNumber (r : Renumbering) (target : Table) (raw : String) : Prop :=
  ∀ n ∈ Numeral.decimal? raw, Numeral.IsWritable (r.newId target n)

/-- The new numbers of a field can be written. -/
def FitsField (r : Renumbering) (table : Table) (key raw : String) : Prop :=
  match table.reference? key with
  | some (.one target) => r.FitsNumber target raw
  | some (.list target) =>
    ∀ cs ∈ Text.splitOn '+' raw.toList, r.FitsNumber target (String.ofList cs)
  | none => True

/-- The new numbers of an entry can be written. -/
structure Fits (r : Renumbering) (entry : Entry table) : Prop where
  id : Numeral.IsWritable (r.entry entry).id
  fields : ∀ pair ∈ entry.fields.pairs, r.FitsField table pair.1 pair.2

/-- The new numbers of all entries of a store can be written. -/
def FitsAll (r : Renumbering) (store : Store) : Prop :=
  ∀ table id (entry : Entry table), store.find? table id = some entry → r.Fits entry

instance (r : Renumbering) (target : Table) (raw : String) : Decidable (r.FitsNumber target raw) :=
  inferInstanceAs (Decidable (∀ n ∈ Numeral.decimal? raw, Numeral.IsWritable (r.newId target n)))

instance (r : Renumbering) (table : Table) (key raw : String) :
    Decidable (r.FitsField table key raw) :=
  match h : table.reference? key with
  | some (.one target) =>
    decidable_of_iff (r.FitsNumber target raw) (by rw [FitsField, h])
  | some (.list target) =>
    decidable_of_iff (∀ cs ∈ Text.splitOn '+' raw.toList, r.FitsNumber target (String.ofList cs))
      (by rw [FitsField, h])
  | none => .isTrue (by rw [FitsField, h]; trivial)

instance (r : Renumbering) (entry : Entry table) : Decidable (r.Fits entry) :=
  decidable_of_iff (Numeral.IsWritable (r.entry entry).id ∧
      ∀ pair ∈ entry.fields.pairs, r.FitsField table pair.1 pair.2)
    ⟨fun h => ⟨h.1, h.2⟩, fun h => ⟨h.id, h.fields⟩⟩

theorem get?_entry (r : Renumbering) (entry : Entry table) (key : String) :
    (r.entry entry).get? key = (entry.get? key).map (r.value table key) :=
  Fields.get?_mapValues _ _ _

/-- A field that refers to nothing is the same. -/
theorem get?_entry_of_reference?_eq_none (r : Renumbering) {entry : Entry table} {key : String}
    (h : table.reference? key = none) : (r.entry entry).get? key = entry.get? key := by
  have hvalue : r.value table key = id := funext fun raw => by rw [value, h, id]
  rw [get?_entry, hvalue, Option.map_id_apply]

theorem Fits.field {entry : Entry table} (h : r.Fits entry) {key raw : String}
    (hraw : entry.get? key = some raw) : r.FitsField table key raw := by
  obtain ⟨before, after, hpairs, -⟩ := List.lookup_eq_some_iff.1 hraw
  exact h.fields (key, raw) (by simp [hpairs])

/-- **A number is read as its new value.** -/
theorem decimal?_number {raw : String} (h : r.FitsNumber target raw) :
    Numeral.decimal? (r.number target raw) = (Numeral.decimal? raw).map (r.newId target) := by
  unfold number
  cases hraw : Numeral.decimal? raw with
  | none => rw [hraw, Option.map_none]
  | some n => rw [Numeral.decimal?_decimal (h n hraw), Option.map_some]

theorem decimal?_part {cs : List Char} (h : r.FitsNumber target (String.ofList cs)) :
    Numeral.decimal? (String.ofList (r.part target cs)) =
      (Numeral.decimal? (String.ofList cs)).map (r.newId target) := by
  rw [part, String.ofList_toList, decimal?_number h]

/-- The new value of a part holds no plus sign if the part holds none. -/
theorem plus_not_mem_part {cs : List Char} (h : '+' ∉ cs) : '+' ∉ r.part target cs := by
  unfold part number
  split
  · exact Numeral.plus_not_mem_decimal _
  · rwa [String.toList_ofList]

/-- The new value of a part is blank if the part is. -/
theorem all_isBlank_part {cs : List Char} (h : r.FitsNumber target (String.ofList cs)) :
    (r.part target cs).all Text.isBlank = cs.all Text.isBlank := by
  have hread := decimal?_part h
  cases hcs : Numeral.decimal? (String.ofList cs) with
  | none => rw [part, number, hcs, String.toList_ofList]
  | some n =>
    -- neither text is blank, for both are numbers
    have hnot : ∀ {text m}, Numeral.decimal? (String.ofList text) = some m →
        text.all Text.isBlank = false := by
      intro text m hm
      rw [← Bool.not_eq_true]
      intro hblank
      rw [Numeral.decimal?_of_all_isBlank (by rwa [String.toList_ofList])] at hm
      exact Option.some_ne_none m hm.symm
    rw [hcs] at hread
    rw [hnot hread, hnot hcs]

/-- The numbers of parts are read as their new values. -/
theorem mapM_decimal?_part {parts : List (List Char)}
    (h : ∀ cs ∈ parts, r.FitsNumber target (String.ofList cs)) :
    ((parts.map (r.part target)).mapM fun cs => Numeral.decimal? (String.ofList cs)) =
      (parts.mapM fun cs => Numeral.decimal? (String.ofList cs)).map
        (List.map (r.newId target)) := by
  induction parts with
  | nil => rfl
  | cons cs parts ih =>
    rw [List.forall_mem_cons] at h
    rw [List.map_cons, List.mapM_cons, List.mapM_cons, decimal?_part h.1, ih h.2]
    cases Numeral.decimal? (String.ofList cs) with
    | none => rfl
    | some n => cases parts.mapM fun cs => Numeral.decimal? (String.ofList cs) <;> rfl

/-- **A list of ids is read as the list of their new values.** -/
theorem idList?_numbers {raw : String}
    (h : ∀ cs ∈ Text.splitOn '+' raw.toList, r.FitsNumber target (String.ofList cs)) :
    idList? (r.numbers target raw) = (idList? raw).map (List.map (r.newId target)) := by
  have hsplit : Text.splitOn '+' (r.numbers target raw).toList =
      (Text.splitOn '+' raw.toList).map (r.part target) := by
    rw [numbers, String.toList_ofList]
    refine Text.splitOn_intercalate (by simpa using Text.splitOn_ne_nil _ _) ?_
    rw [List.forall_mem_map]
    exact fun cs hcs => plus_not_mem_part (Text.not_mem_of_mem_splitOn hcs)
  have hblank : ((Text.splitOn '+' raw.toList).map (r.part target)).filter
        (fun cs => !cs.all Text.isBlank) =
      ((Text.splitOn '+' raw.toList).filter fun cs => !cs.all Text.isBlank).map
        (r.part target) := by
    rw [List.filter_map]
    refine congrArg (List.map (r.part target)) (List.filter_congr fun cs hcs => ?_)
    rw [Function.comp_apply, all_isBlank_part (h cs hcs)]
  rw [idList?, hsplit, hblank, mapM_decimal?_part fun cs hcs => h cs (List.mem_filter.1 hcs).1]
  rfl

/-- What a store holds fits, if the entries do that its records make. -/
theorem fitsAll_afterAll {calls : List Call} (h : ∀ call ∈ calls, ∀ table ∈ Table.all,
    ∀ id ∈ call.idIn? table, r.Fits (call.entry id : Entry table)) :
    r.FitsAll (Store.empty.afterAll calls) := by
  intro table id entry hentry
  rw [Store.find?_empty_afterAll, Option.map_eq_some_iff] at hentry
  obtain ⟨call, hlast, rfl⟩ := hentry
  obtain ⟨hcall, hid⟩ := List.mem_filter.1 (List.mem_of_getLast? hlast)
  have hmem : call ∈ calls :=
    (List.mem_filter.1 ((List.rtakeWhile_suffix _ _).subset hcall)).1
  exact h call hmem table (Table.mem_all table) id (of_decide_eq_true hid)

/-! ### Tables -/

/-- A table with its entries renumbered. -/
def entries (r : Renumbering) (entries : EntryTable table) : EntryTable table :=
  .ofList (entries.toList.map fun pair => (r.newId table pair.1, r.entry pair.2))

/-- **What a renumbered table holds.** -/
theorem getElem?_entries_eq_some_iff {entries : EntryTable table} {id : Int} {found : Entry table} :
    (r.entries entries)[id]? = some found ↔
      ∃ old entry, entries[old]? = some entry ∧ r.newId table old = id ∧ r.entry entry = found := by
  have hdistinct : (entries.toList.map fun pair => (r.newId table pair.1, r.entry pair.2)).Pairwise
      fun a b => ¬ compare a.1 b.1 = .eq := by
    rw [List.pairwise_map]
    refine Std.ExtTreeMap.distinct_keys_toList.imp fun hne heq => hne ?_
    rw [Std.compare_eq_iff_eq] at heq ⊢
    exact r.injective_newId table heq
  have hfound : ∀ {old entry}, entries[old]? = some entry →
      (r.entries entries)[r.newId table old]? = some (r.entry entry) := by
    intro old entry hentry
    refine Std.ExtTreeMap.getElem?_ofList_of_mem Std.ReflCmp.compare_self hdistinct ?_
    exact List.mem_map.2 ⟨(old, entry), Std.ExtTreeMap.mem_toList_iff_getElem?_eq_some.2 hentry, rfl⟩
  constructor
  · intro h
    have hkey : id ∈ (entries.toList.map fun pair => (r.newId table pair.1, r.entry pair.2)).map
        Prod.fst := by
      by_contra hnot
      have hnone : (r.entries entries)[id]? = none :=
        Std.ExtTreeMap.getElem?_ofList_of_contains_eq_false (by simpa using hnot)
      rw [hnone] at h
      exact Option.some_ne_none found h.symm
    obtain ⟨_, hpair, rfl⟩ := List.mem_map.1 hkey
    obtain ⟨⟨old, entry⟩, hmem, rfl⟩ := List.mem_map.1 hpair
    have hentry := Std.ExtTreeMap.mem_toList_iff_getElem?_eq_some.1 hmem
    rw [hfound hentry, Option.some.injEq] at h
    exact ⟨old, entry, hentry, rfl, h⟩
  · rintro ⟨old, entry, hentry, rfl, rfl⟩
    exact hfound hentry

end Renumbering

namespace Store

variable {store : Store} {r : Renumbering} {table : Table}

/-- The store with its symbols, spans, scopes and segments renumbered. -/
def renumbered (store : Store) (r : Renumbering) : Store :=
  { store with
    scopes := r.entries store.scopes
    segments := r.entries store.segments
    spans := r.entries store.spans
    symbolTable := r.entries store.symbolTable }

theorem entries_renumbered (store : Store) (r : Renumbering) (h : table ≠ .file) :
    (store.renumbered r).entries table = r.entries (store.entries table) := by
  cases table with
  | file => exact absurd rfl h
  | scope | segment | span | symbol => rfl

/-- **A new id finds the entry that the old one found.** -/
theorem find?_renumbered (store : Store) (r : Renumbering) (h : table ≠ .file) (id : Int) :
    (store.renumbered r).find? table (r.newId table id) = (store.find? table id).map r.entry := by
  refine Option.ext fun found => ?_
  rw [find?, entries_renumbered store r h, Renumbering.getElem?_entries_eq_some_iff,
    Option.map_eq_some_iff]
  constructor
  · rintro ⟨old, entry, hentry, hid, rfl⟩
    obtain rfl := r.injective_newId table hid
    exact ⟨entry, hentry, rfl⟩
  · rintro ⟨entry, hentry, rfl⟩
    exact ⟨id, entry, hentry, rfl, rfl⟩

/-- **The symbols are the old ones, in their order.** -/
theorem symbols_renumbered (h : store.HasOwnIds) (r : Renumbering) :
    (store.renumbered r).symbols = store.symbols.map r.entry := by
  have hfind : ∀ {id : Int} {found : Symbol}, (store.renumbered r).find? .symbol id = some found ↔
      ∃ old symbol, store.find? .symbol old = some symbol ∧ r.newId .symbol old = id ∧
        r.entry symbol = found := Renumbering.getElem?_entries_eq_some_iff
  refine eq_of_pairwise_id (pairwise_symbols fun id found hfound => ?_) ?_ fun found => ?_
  · obtain ⟨old, symbol, hsymbol, rfl, rfl⟩ := hfind.1 hfound
    rw [Renumbering.entry, h _ _ _ hsymbol]
  · have hmono : StrictMono (r.ofTable .symbol) := r.strictMono_symbol
    rw [List.pairwise_map]
    exact (pairwise_symbols (h .symbol)).imp fun hlt => Renumbering.newId_lt_newId hmono hlt
  · simp only [mem_symbols, hfind, List.mem_map]
    constructor
    · rintro ⟨_, old, symbol, hsymbol, -, rfl⟩
      exact ⟨symbol, ⟨old, hsymbol⟩, rfl⟩
    · rintro ⟨symbol, ⟨old, hsymbol⟩, rfl⟩
      exact ⟨_, old, symbol, hsymbol, rfl, rfl⟩

end Store
end DebugLabels
