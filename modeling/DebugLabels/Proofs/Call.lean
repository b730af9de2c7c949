import DebugLabels.Record.Line
import DebugLabels.Store.Recording

/-!
# One record handed to a store

A `Call` hands a record to a store, with its place if it has one. `handIn_eq` says once what a call
does, kind by kind: its outcome, the store that it leaves and what it tells. `Store.after` is the
store that it leaves, also if it fails.

Whether a call fails is a matter of the record alone (`exists_outcome_takeIn_iff`): a record is
usable if its kind is known and, for the kinds that are kept by id, its id is a decimal number that
is not negative. A call that fails leaves the store as it was (`after_of_not_isUsable`). What a
usable record does to each part of a store then follows: to a look-up (`find?_after`), to the head
records (`version_after`, `info_after`) and to the discarded kinds (`discarded_after`).
-/

namespace DebugLabels

namespace RecordLine

/-- The kind that the record is of, if its name is that of a kind. -/
def kind? (record : RecordLine) : Option Kind := Kind.ofName? record.kind

/-- The fields of the record. -/
def decoded (record : RecordLine) : Fields := Fields.decode record.fields

/-- The number that the record's id field stands for. -/
def number? (record : RecordLine) : Option Int :=
  (record.decoded.get? "id").bind Numeral.decimal?

/-- The id that the record has in a table, if it belongs there. -/
def idIn? (record : RecordLine) (table : Table) : Option Int :=
  if record.kind? = some (.table table) then record.number? else none

/-- The record can be taken in: its kind is known, and if it is kept by id, it has one. -/
def isUsable (record : RecordLine) : Bool :=
  match record.kind? with
  | none => false
  | some (.table _) => record.number?.any (0 ≤ ·)
  | some _ => true

/-- No two of the records have one id in one table. -/
def HaveDistinctIds (records : List RecordLine) : Prop :=
  records.Pairwise fun a b => ∀ table id, a.idIn? table = some id → b.idIn? table ≠ some id

theorem kind?_of_idIn? {record : RecordLine} {table : Table} {id : Int}
    (h : record.idIn? table = some id) : record.kind? = some (.table table) := by
  unfold idIn? at h
  split at h
  · assumption
  · simp at h

theorem idIn?_of_kind? {record : RecordLine} {table : Table}
    (h : record.kind? = some (.table table)) : record.idIn? table = record.number? := if_pos h

/-- A record of another kind has no id in a table. -/
theorem idIn?_eq_none {record : RecordLine} {table : Table}
    (h : record.kind? ≠ some (.table table)) : record.idIn? table = none := if_neg h

/-- A usable record has no negative id. -/
theorem nonneg_of_idIn? {record : RecordLine} {table : Table} {id : Int}
    (husable : record.isUsable = true) (h : record.idIn? table = some id) : 0 ≤ id := by
  have hkind := kind?_of_idIn? h
  rw [idIn?_of_kind? hkind] at h
  simpa [isUsable, hkind, h] using husable

/-- A usable record of a table has an id there. -/
theorem exists_idIn? {record : RecordLine} {table : Table} (husable : record.isUsable = true)
    (h : record.kind? = some (.table table)) : ∃ id, record.idIn? table = some id := by
  rw [idIn?_of_kind? h]
  cases hnumber : record.number? with
  | none => simp [isUsable, h, hnumber] at husable
  | some number => exact ⟨number, rfl⟩

/-- The id that is read off the fields of a usable record. -/
theorem entryId_eq_ok_iff {record : RecordLine} {table : Table} {id : Int} :
    Store.entryId table record.decoded = .ok id ↔ record.number? = some id ∧ 0 ≤ id := by
  unfold Store.entryId number?
  cases record.decoded.get? "id" with
  | none => simp
  | some raw =>
    cases h : Numeral.decimal? raw with
    | none => simp [h]
    | some number =>
      by_cases hneg : number < 0
      · simp only [h, hneg, if_true, Option.bind_some, Option.some.injEq, reduceCtorEq, false_iff,
          not_and]
        rintro rfl
        omega
      · simp only [h, hneg, if_false, Except.ok.injEq, Option.bind_some, Option.some.injEq]
        constructor
        · rintro rfl
          exact ⟨rfl, by omega⟩
        · exact And.left

end RecordLine

/-- A record that is handed to a store, and its place. -/
structure Call extends RecordLine where
  location : Option Location
  deriving DecidableEq, Repr

/-- The entry that a call makes under an id. -/
def Call.entry (call : Call) {table : Table} (id : Int) : Entry table :=
  ⟨id, call.decoded, call.location⟩

namespace Store

variable {store : Store} {call : Call}

/-- Hand a record to a store: the outcome, and the ledger that is left. -/
def handIn (store : Store) (call : Call) : Except Failure Unit × Ledger :=
  (Recording.record call.kind call.fields call.location).runOn store

/-- Hand a record to a store, with the store as the outcome. -/
def takeIn (store : Store) (call : Call) : Logged Store :=
  store.record call.kind call.fields call.location

/-- The store that a call leaves, whether it fails or not. -/
def after (store : Store) (call : Call) : Store := (store.handIn call).2.store

/-- What is told of a record of a kind, apart from its fields without a value. -/
def noticesOf (store : Store) (call : Call) : Kind → List Notice
  | .version =>
    .version { store with version := call.decoded }.banner :: versionWarnings call.decoded
  | .info => [.info call.decoded]
  | .table table =>
    match entryId table call.decoded with
    | .error _ => []
    | .ok id => if (store.find? table id).isSome then [.duplicate table id] else []
  | .discarded _ => []

/-- What a call tells. -/
def noticesOfCall (store : Store) (call : Call) : List Notice :=
  match call.kind? with
  | none => []
  | some kind =>
    (Fields.keysWithoutValue call.fields).map Notice.valueless ++ store.noticesOf call kind

/-- What taking in a record of a table does to a ledger. -/
theorem run_entry (table : Table) (fields : Fields) (location : Option Location)
    (ledger : Ledger) :
    (ExceptT.run (Recording.entry table fields location)).run ledger =
      match entryId table fields with
      | .error cause => (.error (.ofError (.malformed cause location)), ledger)
      | .ok id => (.ok (), ⟨ledger.store.put (⟨id, fields, location⟩ : Entry table),
          ledger.notices ++
            if (ledger.store.find? table id).isSome then [.duplicate table id] else []⟩) := by
  unfold Recording.entry
  cases entryId table fields with
  | error cause => rfl
  | ok id =>
    show StateT.run (ExceptT.run (if (ledger.store.find? table id).isSome then _ else _)) ledger = _
    by_cases hfound : (ledger.store.find? table id).isSome
    · simp only [if_pos hfound]
      rfl
    · simp only [if_neg hfound, List.append_nil]
      rfl

/-- **What a call does**, kind by kind. -/
theorem handIn_eq (store : Store) (call : Call) :
    store.handIn call =
      match call.kind? with
      | none => (.error (.ofError (.unknownKind call.kind call.location)),
          ⟨store, store.noticesOfCall call⟩)
      | some .version =>
        (.ok (), ⟨{ store with version := call.decoded }, store.noticesOfCall call⟩)
      | some .info =>
        (.ok (), ⟨{ store.clear with info := call.decoded }, store.noticesOfCall call⟩)
      | some (.table table) =>
        match entryId table call.decoded with
        | .error cause => (.error (.ofError (.malformed cause call.location)),
            ⟨store, store.noticesOfCall call⟩)
        | .ok id => (.ok (), ⟨store.put (call.entry id : Entry table), store.noticesOfCall call⟩)
      | some (.discarded kind) =>
        (.ok (), ⟨{ store with discarded := tally kind store.discarded },
          store.noticesOfCall call⟩) := by
  unfold handIn Recording.record noticesOfCall RecordLine.kind?
  rcases Kind.ofName? call.kind with _ | _ | _ | table | kind
  · rfl
  · show (Except.ok (), Ledger.mk _ (([] ++ _ ++ [_]) ++ _)) = _
    simp [noticesOf, RecordLine.decoded]
  · rfl
  · show (ExceptT.run (Recording.entry table call.decoded call.location)).run
      ⟨store, [] ++ (Fields.keysWithoutValue call.fields).map .valueless⟩ = _
    rw [run_entry, List.nil_append]
    cases hid : entryId table call.decoded with
    | error cause => simp [noticesOf, hid]
    | ok id => simp [noticesOf, hid, Call.entry]
  · simp [noticesOf]
    rfl

/-- What a call comes to, kind by kind. -/
theorem outcome_takeIn (store : Store) (call : Call) :
    (store.takeIn call).outcome =
      match call.kind? with
      | none => .error (.ofError (.unknownKind call.kind call.location))
      | some .version => .ok { store with version := call.decoded }
      | some .info => .ok { store.clear with info := call.decoded }
      | some (.table table) =>
        match entryId table call.decoded with
        | .error cause => .error (.ofError (.malformed cause call.location))
        | .ok id => .ok (store.put (call.entry id : Entry table))
      | some (.discarded kind) => .ok { store with discarded := tally kind store.discarded } := by
  show ((store.handIn call).1.map fun () => (store.handIn call).2.store) = _
  rw [handIn_eq]
  rcases call.kind? with _ | _ | _ | table | kind
  · rfl
  · rfl
  · rfl
  · dsimp only
    cases entryId table call.decoded <;> rfl
  · rfl

/-- **What a call tells**, kind by kind. -/
theorem notices_takeIn (store : Store) (call : Call) :
    (store.takeIn call).notices = store.noticesOfCall call := by
  show (store.handIn call).2.notices = _
  rw [handIn_eq]
  rcases call.kind? with _ | _ | _ | table | kind
  · rfl
  · rfl
  · rfl
  · dsimp only
    cases entryId table call.decoded <;> rfl
  · rfl

/-- **Whether a call fails does not depend on the store.** -/
theorem exists_outcome_takeIn_iff (store : Store) (call : Call) :
    (∃ taken, (store.takeIn call).outcome = .ok taken) ↔ call.isUsable = true := by
  rw [outcome_takeIn]
  unfold RecordLine.isUsable
  rcases hkind : call.kind? with _ | _ | _ | table | kind
  · simp
  · simp
  · simp
  · simp only [Option.any_eq_true, decide_eq_true_eq]
    constructor
    · rintro ⟨taken, h⟩
      cases hid : entryId table call.decoded with
      | error cause => simp [hid] at h
      | ok id => exact ⟨id, RecordLine.entryId_eq_ok_iff.1 hid⟩
    · rintro ⟨id, h⟩
      exact ⟨store.put (call.entry id : Entry table), by rw [RecordLine.entryId_eq_ok_iff.2 h]⟩
  · simp

/-- **A record that cannot be used changes nothing.** -/
theorem after_of_not_isUsable (store : Store) (h : call.isUsable = false) :
    store.after call = store := by
  unfold RecordLine.isUsable at h
  rw [after, handIn_eq]
  split at h
  · rename_i hkind
    rw [hkind]
  · rename_i table hkind
    rw [hkind]
    dsimp only
    cases hid : entryId table call.decoded with
    | error cause => rfl
    | ok id =>
      obtain ⟨hnumber, hnonneg⟩ := RecordLine.entryId_eq_ok_iff.1 hid
      simp [hnumber, hnonneg] at h
  · cases h

/-- A call fails as the step on the ledger does, and succeeds with the store that it leaves. -/
theorem outcome_takeIn_eq_map (store : Store) (call : Call) :
    (store.takeIn call).outcome = (store.handIn call).1.map fun () => store.after call := rfl

theorem fst_handIn_eq_error_iff {failure : Failure} :
    (store.handIn call).1 = .error failure ↔ (store.takeIn call).outcome = .error failure := by
  rw [outcome_takeIn_eq_map]
  cases (store.handIn call).1 <;> simp [Except.map]

theorem outcome_takeIn_eq_after (store : Store) (h : call.isUsable = true) :
    (store.takeIn call).outcome = .ok (store.after call) := by
  obtain ⟨taken, htaken⟩ := (exists_outcome_takeIn_iff store call).2 h
  cases houtcome : (store.handIn call).1 with
  | ok => rw [outcome_takeIn_eq_map, houtcome]; rfl
  | error failure => rw [fst_handIn_eq_error_iff.1 houtcome] at htaken; cases htaken

theorem after_of_version (store : Store) (h : call.kind? = some .version) :
    store.after call = { store with version := call.decoded } := by
  rw [after, handIn_eq, h]

theorem after_of_info (store : Store) (h : call.kind? = some .info) :
    store.after call = { store.clear with info := call.decoded } := by
  rw [after, handIn_eq, h]

theorem after_of_discarded {kind : DiscardedKind} (store : Store)
    (h : call.kind? = some (.discarded kind)) :
    store.after call = { store with discarded := tally kind store.discarded } := by
  rw [after, handIn_eq, h]

/-- A usable record of a table is put there under its id. -/
theorem after_of_idIn? {table : Table} {id : Int} (store : Store) (husable : call.isUsable = true)
    (h : call.idIn? table = some id) :
    store.after call = store.put (call.entry id : Entry table) := by
  have hkind := RecordLine.kind?_of_idIn? h
  have hid : entryId table call.decoded = .ok id :=
    RecordLine.entryId_eq_ok_iff.2
      ⟨RecordLine.idIn?_of_kind? hkind ▸ h, RecordLine.nonneg_of_idIn? husable h⟩
  rw [after, handIn_eq, hkind]
  simp only [hid]

/-- **What a usable record does to a look-up.**  An info record empties the tables, a record of the
table is found under its id, and any other record is not seen. -/
theorem find?_after (store : Store) (husable : call.isUsable = true) (table : Table) (id : Int) :
    (store.after call).find? table id =
      if call.kind? = some .info then none
      else if call.idIn? table = some id then some (call.entry id)
      else store.find? table id := by
  rcases hkind : call.kind? with _ | _ | _ | other | kind
  · simp [RecordLine.isUsable, hkind] at husable
  · have hid : call.idIn? table = none := RecordLine.idIn?_eq_none (by simp [hkind])
    rw [after_of_version store hkind]
    cases table <;> simp [hid, find?, entries]
  · rw [after_of_info store hkind, if_pos rfl, ← find?_clear store table id]
    cases table <;> rfl
  · obtain ⟨number, hid⟩ := RecordLine.exists_idIn? husable hkind
    rw [after_of_idIn? store husable hid, if_neg (by simp)]
    by_cases hsame : other = table
    · subst hsame
      rw [hid, find?_put]
      by_cases hn : number = id
      · subst hn
        simp [Call.entry]
      · simp [Call.entry, hn]
    · have hnone : call.idIn? table = none := RecordLine.idIn?_eq_none (by simp [hkind, hsame])
      rw [find?_put_of_ne store _ hsame, hnone, if_neg (by simp)]
  · have hid : call.idIn? table = none := RecordLine.idIn?_eq_none (by simp [hkind])
    rw [after_of_discarded store hkind]
    cases table <;> simp [hid, find?, entries]

theorem version_put (store : Store) {table : Table} (entry : Entry table) :
    (store.put entry).version = store.version := by cases table <;> rfl

theorem info_put (store : Store) {table : Table} (entry : Entry table) :
    (store.put entry).info = store.info := by cases table <;> rfl

theorem discarded_put (store : Store) {table : Table} (entry : Entry table) :
    (store.put entry).discarded = store.discarded := by cases table <;> rfl

/-- A usable record of a table leaves all but the table alone. -/
theorem after_of_table {table : Table} (store : Store) (husable : call.isUsable = true)
    (h : call.kind? = some (.table table)) :
    ∃ entry : Entry table, store.after call = store.put entry := by
  obtain ⟨number, hid⟩ := RecordLine.exists_idIn? husable h
  exact ⟨_, after_of_idIn? store husable hid⟩

theorem version_after (store : Store) (husable : call.isUsable = true) :
    (store.after call).version =
      if call.kind? = some .version then call.decoded else store.version := by
  rcases hkind : call.kind? with _ | _ | _ | table | kind
  · simp [RecordLine.isUsable, hkind] at husable
  · rw [after_of_version store hkind, if_pos rfl]
  · rw [after_of_info store hkind, if_neg (by simp)]
    rfl
  · obtain ⟨entry, h⟩ := after_of_table store husable hkind
    rw [h, version_put, if_neg (by simp)]
  · rw [after_of_discarded store hkind, if_neg (by simp)]

theorem info_after (store : Store) (husable : call.isUsable = true) :
    (store.after call).info = if call.kind? = some .info then call.decoded else store.info := by
  rcases hkind : call.kind? with _ | _ | _ | table | kind
  · simp [RecordLine.isUsable, hkind] at husable
  · rw [after_of_version store hkind, if_neg (by simp)]
  · rw [after_of_info store hkind, if_pos rfl]
  · obtain ⟨entry, h⟩ := after_of_table store husable hkind
    rw [h, info_put, if_neg (by simp)]
  · rw [after_of_discarded store hkind, if_neg (by simp)]

theorem discarded_after (store : Store) (husable : call.isUsable = true) :
    (store.after call).discarded =
      match call.kind? with
      | some (.discarded kind) => tally kind store.discarded
      | _ => store.discarded := by
  rcases hkind : call.kind? with _ | _ | _ | table | kind
  · simp [RecordLine.isUsable, hkind] at husable
  · rw [after_of_version store hkind]
  · rw [after_of_info store hkind]
    rfl
  · obtain ⟨entry, h⟩ := after_of_table store husable hkind
    rw [h, discarded_put]
  · rw [after_of_discarded store hkind]

end Store
end DebugLabels
