import DebugLabels.Proofs.Listed
import DebugLabels.Proofs.Reading

/-!
# When an error can be worded

A step that fails ends in an error as it is worded (`Failure.ofError`): an error that shows a number
too long to be written ends in `Failure.digitLimit` instead.  An error about a record shows the line
that the record stands on, and most errors show ids.

* Ids are read in decimal, so every id of a store that was filled by records can be written
  (`hasWritableIds_afterAll`).
* A line is whatever the caller of a record says it is.  The entries of a store stand on lines that
  can be written if the records did (`hasWritableLines_afterAll`), and the records of a text do if
  the number of its lines can be written (`Location.isWritable_of_mem_ofText`).

`FailsOnly` says of an outcome which failures it can be; it goes through a chain of steps by
`FailsOnly.bind`.  A record that is rejected, and a text, fail only with an error about a record
that has words exactly if its line has (`exists_isAboutRecord_of_takeIn`,
`exists_isAboutRecord_of_readRecords`).
-/

namespace DebugLabels

namespace Category

/-- Errors about the content of a debug file. -/
def isDebugFile : Category → Bool
  | debugFile | unknownKind | malformedRecord => true
  | _ => false

/-- Errors of resolving a symbol. -/
def isResolution : Category → Bool
  | resolution | unresolvedScope | missing _ | outsideImage => true
  | _ => false

end Category

/-- An error that cannot be worded ends in the digit limit, and no other does. -/
theorem Failure.ofError_eq_digitLimit_iff {e : Error} :
    ofError e = .digitLimit ↔ ¬ e.IsWritable := by
  unfold ofError
  split <;> simp_all

/-- The line of the place that the error starts with can be written, if there is a place. -/
def Error.HasWritablePlace (e : Error) : Prop := ∀ place ∈ e.place?, place.IsWritable

/-- A malformed record can be worded if its line and the numbers of its fault can be written. -/
theorem Error.isWritable_malformed_iff {cause : Malformation} {location : Option Location} :
    (malformed cause location).IsWritable ↔
      (malformed cause location).HasWritablePlace ∧ ∀ n ∈ cause.numbers, Numeral.IsWritable n :=
  isWritable_record_iff

/-- An error about a record, of which the line of its place alone decides whether it can be
worded. -/
structure Error.IsAboutRecord (e : Error) (location : Option Location) : Prop where
  category : e.category.isDebugFile = true
  isWritable_iff : e.IsWritable ↔ ∀ place ∈ location, place.IsWritable

/-! ### Chains of steps -/

variable {α β : Type} {sort : Failure → Prop}

/-- All failures that the outcome can be are of a sort. -/
def FailsOnly (sort : Failure → Prop) (outcome : Except Failure α) : Prop :=
  ∀ failure, outcome = .error failure → sort failure

namespace FailsOnly

theorem ok (value : α) : FailsOnly sort (.ok value) := fun _ h => by simp at h

theorem error {failure : Failure} (h : sort failure) :
    FailsOnly sort (.error failure : Except Failure α) := fun _ heq => Except.error.inj heq ▸ h

/-- A chain fails as its steps do, the second one on the values of the first. -/
theorem bind {first : Except Failure α} {next : α → Except Failure β}
    (hfirst : FailsOnly sort first)
    (hnext : ∀ value, first = .ok value → FailsOnly sort (next value)) :
    FailsOnly sort (first >>= next) := by
  cases first with
  | error failure => exact error (hfirst failure rfl)
  | ok value => exact hnext value rfl

end FailsOnly

/-- A chain of two steps fails if the first does, or the second on the value of the first. -/
theorem bind_eq_error_iff {ε α β : Type} {first : Except ε α} {next : α → Except ε β} {e : ε} :
    (first >>= next) = .error e ↔
      first = .error e ∨ ∃ a, first = .ok a ∧ next a = .error e := by
  cases first <;> simp [bind, Except.bind]

theorem pure_ne_error {ε α : Type} {a : α} {e : ε} : (pure a : Except ε α) ≠ .error e := by
  simp [pure, Except.pure]

theorem throw_eq_error_iff {ε α : Type} {e e' : ε} :
    (throw e : Except ε α) = .error e' ↔ e' = e := by
  simp [throw, throwThe, MonadExceptOf.throw, eq_comm]

theorem map_eq_error_iff {ε α β : Type} {f : α → β} {step : Except ε α} {e : ε} :
    f <$> step = .error e ↔ step = .error e := by
  cases step <;> simp [Functor.map, Except.map]

theorem Logged.outcome_bind_eq_error_iff {α β : Type} {first : Logged α} {next : α → Logged β}
    {failure : Failure} : (first >>= next).outcome = .error failure ↔
      first.outcome = .error failure ∨
        ∃ a, first.outcome = .ok a ∧ (next a).outcome = .error failure := by
  rw [outcome_bind]
  exact bind_eq_error_iff

/-! ### Ids -/

namespace Entry

variable {table : Table} {entry : Entry table} {key : String}

/-- **The line of an entry decides whether an error about it can be worded**, if its id can be
written and is the only number that the error shows besides. -/
theorem isWritable_malformed_iff {cause : Malformation} (hid : Numeral.IsWritable entry.id)
    (hnumbers : cause.numbers = [entry.id]) :
    (Error.malformed cause entry.location).IsWritable ↔
      (Error.malformed cause entry.location).HasWritablePlace := by
  rw [Error.isWritable_malformed_iff, hnumbers]
  exact and_iff_left (by simpa using hid)

/-- What is read in decimal can be written in decimal. -/
theorem isWritable_of_reads {n : Int} (h : entry.Reads .decimal key n) : Numeral.IsWritable n := by
  obtain ⟨raw, -, hread⟩ := h
  exact Numeral.isWritable_of_decimal? hread

end Entry

theorem Symbol.isWritable_mention {symbol : Symbol} (hid : Numeral.IsWritable symbol.id) :
    (mention symbol).IsWritable :=
  Mention.isWritable_symbol_iff.2 hid

theorem forall_isWritable_of_mapM {parts : List (List Char)} {ids : List Int}
    (h : (parts.mapM fun part => Numeral.decimal? (String.ofList part)) = some ids) :
    ∀ id ∈ ids, Numeral.IsWritable id := by
  induction parts generalizing ids with
  | nil =>
    obtain rfl : [] = ids := by simpa using h
    simp
  | cons part parts ih =>
    simp only [List.mapM_cons, Option.bind_eq_bind, Option.bind_eq_some_iff, Option.pure_def,
      Option.some.injEq] at h
    obtain ⟨id, hid, rest, hrest, rfl⟩ := h
    exact List.forall_mem_cons.2 ⟨Numeral.isWritable_of_decimal? hid, ih hrest⟩

/-- The ids of a list can be written. -/
theorem isWritable_of_mem_idList? {text : String} {ids : List Int} (h : idList? text = some ids) :
    ∀ id ∈ ids, Numeral.IsWritable id :=
  forall_isWritable_of_mapM h

theorem Scope.isWritable_of_hasLeastSpan {scope : Scope} {spanId : Int}
    (h : scope.HasLeastSpan spanId) : Numeral.IsWritable spanId := by
  obtain ⟨raw, ids, -, hids, hmem, -⟩ := h
  exact isWritable_of_mem_idList? hids spanId hmem

theorem RecordLine.isWritable_of_idIn? {record : RecordLine} {table : Table} {id : Int}
    (h : record.idIn? table = some id) : Numeral.IsWritable id := by
  rw [idIn?_of_kind? (kind?_of_idIn? h), number?, Option.bind_eq_some_iff] at h
  obtain ⟨raw, -, hraw⟩ := h
  exact Numeral.isWritable_of_decimal? hraw

namespace Store

/-- What makes an id unusable shows no number that was not read in decimal. -/
theorem isWritable_of_entryId_error {table : Table} {fields : Fields} {cause : Malformation}
    (h : entryId table fields = .error cause) : ∀ n ∈ cause.numbers, Numeral.IsWritable n := by
  unfold entryId at h
  split at h
  · obtain rfl := Except.error.inj h
    simp [Malformation.numbers]
  · split at h
    · obtain rfl := Except.error.inj h
      simp [Malformation.numbers]
    · rename_i id hid
      split at h
      · obtain rfl := Except.error.inj h
        simpa [Malformation.numbers] using Numeral.isWritable_of_decimal? hid
      · simp at h

end Store

/-! ### Records that are rejected -/

/-- **A record that is rejected is an error about it.** -/
theorem Store.exists_isAboutRecord_of_takeIn {store : Store} {call : Call} {failure : Failure}
    (h : (store.takeIn call).outcome = .error failure) :
    ∃ e : Error, e.IsAboutRecord call.location ∧ failure = .ofError e := by
  rw [outcome_takeIn] at h
  split at h
  · refine ⟨_, ⟨rfl, ?_⟩, (Except.error.inj h).symm⟩
    simp [Error.unknownKind, Error.isWritable_record_iff, RecordFault.numbers]
  · cases h
  · cases h
  · split at h
    · rename_i cause hid
      refine ⟨_, ⟨rfl, ?_⟩, (Except.error.inj h).symm⟩
      exact Error.isWritable_malformed_iff.trans (and_iff_left (isWritable_of_entryId_error hid))
    · cases h
  · cases h

namespace Reading

/-- **Reading stops only with an error about one of the records.** -/
theorem exists_isAboutRecord_of_readRecords {reading : Reading} (hgoing : reading.failure = none)
    {records : List LocatedRecord} {failure : Failure}
    (h : (readRecords reading records).failure = some failure) :
    ∃ record ∈ records, ∃ e : Error,
      e.IsAboutRecord (some record.location) ∧ failure = .ofError e := by
  induction records generalizing reading with
  | nil => simp [readRecords, hgoing] at h
  | cons record records ih =>
    rw [readRecords_cons] at h
    cases hcall : (reading.store.takeIn record.call).outcome with
    | ok store =>
      have husable := (Store.exists_outcome_takeIn_iff _ _).1 ⟨store, hcall⟩
      obtain ⟨later, hmem, hlater⟩ := ih (next_of_isUsable hgoing husable).1 h
      exact ⟨later, List.mem_cons_of_mem record hmem, hlater⟩
    | error cause =>
      have hstop := failure_next_of_error hgoing hcall
      rw [readRecords_of_failure hstop, hstop] at h
      obtain rfl := Option.some.inj h
      exact ⟨record, List.mem_cons_self, Store.exists_isAboutRecord_of_takeIn hcall⟩

end Reading

/-- The records of a text fail it with an error about one of them. -/
theorem Store.exists_isAboutRecord_of_ofText {text file : String} {failure : Failure}
    (h : (ofText text file).outcome = .error failure) :
    ∃ record ∈ RecordLine.ofText file text.toList, ∃ e : Error,
      e.IsAboutRecord (some record.location) ∧ failure = .ofError e := by
  unfold ofText Reading.readText Reading.result at h
  cases hread : (Reading.readRecords (.start .empty)
      (RecordLine.ofText file text.toList)).failure with
  | none => simp [hread] at h
  | some cause =>
    obtain rfl : cause = failure := by simpa [hread] using h
    exact Reading.exists_isAboutRecord_of_readRecords rfl hread

/-! ### Lines -/

/-- A smaller number has no more digits. -/
theorem Numeral.IsWritable.mono {m n : Int} (h : IsWritable n) (hle : m.natAbs ≤ n.natAbs) :
    IsWritable m :=
  lt_of_le_of_lt hle h

/-- **The records of a text stand on lines that can be written**, if the number of all its lines
can. -/
theorem Location.isWritable_of_mem_ofText {file : String} {text : List Char}
    (hlines : Numeral.IsWritable (Text.lines text).length) {record : LocatedRecord}
    (h : record ∈ RecordLine.ofText file text) : record.location.IsWritable := by
  obtain ⟨n, line, hline, -, hlocation⟩ := RecordLine.mem_ofText_iff.1 h
  obtain ⟨hlt, -⟩ := List.getElem?_eq_some_iff.1 hline
  rw [hlocation]
  exact hlines.mono (m := (n : Int) + 1) (by omega)

namespace Store

/-! ### Stores that were filled by records -/

/-- Every id that an entry of the store has can be written. -/
def HasWritableIds (store : Store) : Prop :=
  ∀ table id (entry : Entry table), store.find? table id = some entry →
    Numeral.IsWritable entry.id

/-- **Ids that came from records can be written.** -/
theorem hasWritableIds_afterAll (calls : List Call) : (empty.afterAll calls).HasWritableIds := by
  intro table id entry h
  rw [id_of_find?_afterAll h]
  rw [find?_empty_afterAll, Option.map_eq_some_iff] at h
  obtain ⟨call, hcall, -⟩ := h
  obtain ⟨other, -, hid⟩ := Call.isSome_lastIn_iff.1 (Option.isSome_of_eq_some hcall)
  exact RecordLine.isWritable_of_idIn? hid

/-- Every entry of the store that has a place stands on a line that can be written. -/
def HasWritableLines (store : Store) : Prop :=
  ∀ table id (entry : Entry table), store.find? table id = some entry →
    ∀ place ∈ entry.location, place.IsWritable

/-- **Entries stand where their records did**, so their lines can be written if those of the records
can. -/
theorem hasWritableLines_afterAll {calls : List Call}
    (h : ∀ call ∈ calls, ∀ place ∈ call.location, place.IsWritable) :
    (empty.afterAll calls).HasWritableLines := by
  intro table id entry hentry
  rw [find?_empty_afterAll, Option.map_eq_some_iff] at hentry
  obtain ⟨call, hcall, rfl⟩ := hentry
  have hlast := List.mem_of_getLast? hcall
  have husable := (List.rtakeWhile_suffix _ _).subset (List.mem_of_mem_filter hlast)
  exact h call (List.mem_of_mem_filter husable)

variable {store : Store} {settings : Settings} {symbol : Symbol}

/-- The scope of a symbol has a writable id, whether it is stored or not. -/
theorem isWritable_of_hasScope {scopeId : Int} (h : store.HasScope symbol scopeId) :
    Numeral.IsWritable scopeId := by
  rcases h with h | ⟨-, _, -, _, -, h⟩
  · exact Entry.isWritable_of_reads h
  · exact Entry.isWritable_of_reads h

/-- The symbols of a store with writable ids have writable ids. -/
theorem HasWritableIds.symbols (hstore : store.HasWritableIds) (h : symbol ∈ store.symbols) :
    Numeral.IsWritable symbol.id := by
  obtain ⟨id, hid⟩ := mem_symbols.1 h
  exact hstore .symbol id symbol hid

theorem hasWritableIds_ofText {text file : String}
    (hread : (ofText text file).outcome = .ok store) : store.HasWritableIds := by
  obtain ⟨-, rfl⟩ := outcome_ofText_eq_ok_iff.1 hread
  exact hasWritableIds_afterAll _

theorem hasWritableLines_ofText {text file : String}
    (hread : (ofText text file).outcome = .ok store)
    (hlines : Numeral.IsWritable (Text.lines text.toList).length) : store.HasWritableLines := by
  obtain ⟨-, rfl⟩ := outcome_ofText_eq_ok_iff.1 hread
  refine hasWritableLines_afterAll fun call hcall place hplace => ?_
  obtain ⟨record, hrecord, rfl⟩ := List.mem_map.1 hcall
  obtain rfl := Option.some.inj hplace
  exact Location.isWritable_of_mem_ofText hlines hrecord

/-! ### The first symbol that fails -/

/-- **The first symbol that fails** fails all labels, in its own way. -/
theorem outcome_labelsOf_eq_error_iff {symbols : List Symbol} {failure : Failure} :
    (store.labelsOf settings symbols).outcome = .error failure ↔
      ∃ before symbol after, symbols = before ++ symbol :: after ∧
        (∀ earlier ∈ before, ∃ label, (store.label settings earlier).outcome = .ok label) ∧
        (store.label settings symbol).outcome = .error failure := by
  induction symbols with
  | nil => simp [labelsOf]
  | cons first symbols ih =>
    simp only [labelsOf_cons, Logged.outcome_bind_eq_error_iff, Logged.outcome_pure, reduceCtorEq,
      and_false, exists_false, or_false, ih, List.cons_eq_append_iff]
    constructor
    · rintro (hfirst | ⟨label, hfirst, before, symbol, after, rfl, hbefore, hsymbol⟩)
      · exact ⟨[], first, symbols, Or.inl ⟨rfl, rfl⟩, by simp, hfirst⟩
      · exact ⟨first :: before, symbol, after, Or.inr ⟨before, rfl, rfl⟩,
          List.forall_mem_cons.2 ⟨⟨label, hfirst⟩, hbefore⟩, hsymbol⟩
    · rintro ⟨_, symbol, after, ⟨rfl, heq⟩ | ⟨before, rfl, rfl⟩, hbefore, hsymbol⟩
      · obtain ⟨rfl, rfl⟩ := List.cons.inj heq
        exact Or.inl hsymbol
      · obtain ⟨⟨label, hfirst⟩, hrest⟩ := List.forall_mem_cons.1 hbefore
        exact Or.inr ⟨label, hfirst, before, symbol, after, rfl, hrest, hsymbol⟩

theorem outcome_listing_eq_error_iff {failure : Failure} :
    (store.listing settings).outcome = .error failure ↔
      (store.labelsOf settings store.symbols).outcome = .error failure := by
  simp only [Store.listing, Store.labels, Logged.outcome_bind_eq_error_iff, Logged.outcome_pure,
    reduceCtorEq, and_false, exists_false, or_false]

end Store
end DebugLabels
