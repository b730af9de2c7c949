import DebugLabels.Proofs.Call
import DebugLabels.Proofs.History
import DebugLabels.Store.Reading

/-!
# Reading hands records to a store

Reading a text hands its records to a store, one call for each, up to the first record that is not
usable (`store_readRecords`).  Whether reading comes to the end is a matter of the records alone
(`failure_readRecords_eq_none_iff`).

The main statement is `outcome_ofText_eq_ok_iff`: a text is accepted exactly if all its records are
usable, and then the store is what the calls leave behind.
-/

namespace DebugLabels

/-- The call that a record in a file makes. -/
def LocatedRecord.call (record : LocatedRecord) : Call :=
  ⟨record.toRecordLine, some record.location⟩

namespace RecordLine

/-- The records of a text, without their places. -/
def recordsOf (text : List Char) : List RecordLine := (Text.lines text).filterMap ofLine?

/-- The records of numbered lines, without their numbers. -/
theorem map_toRecordLine_located (file : String) (lines : List (List Char × Nat)) :
    (located file lines).map LocatedRecord.toRecordLine =
      (lines.map Prod.fst).filterMap ofLine? := by
  rw [located, List.map_filterMap, List.filterMap_map]
  refine List.filterMap_congr fun line _ => ?_
  simp only [Function.comp_apply, Option.map_map]
  exact Option.map_id'

theorem map_toRecordLine_ofText (file : String) (text : List Char) :
    (ofText file text).map LocatedRecord.toRecordLine = recordsOf text := by
  rw [ofText, ofLines, map_toRecordLine_located, List.zipIdx_map_fst, recordsOf]

/-- What holds of the records of a text holds of them at their places. -/
theorem forall_mem_ofText_iff {P : RecordLine → Prop} {file : String} {text : List Char} :
    (∀ record ∈ ofText file text, P record.toRecordLine) ↔ ∀ record ∈ recordsOf text, P record := by
  rw [← map_toRecordLine_ofText file, List.forall_mem_map]

/-- Where the records of a text stand. -/
theorem mem_ofText_iff {file : String} {text : List Char} {record : LocatedRecord} :
    record ∈ ofText file text ↔
      ∃ (n : Nat) (line : List Char), (Text.lines text)[n]? = some line ∧
        ofLine? line = some record.toRecordLine ∧ record.location = ⟨file, n + 1⟩ := by
  simp only [ofText, ofLines, located, List.mem_filterMap, Option.map_eq_some_iff, Prod.exists]
  constructor
  · rintro ⟨line, number, hmem, read, hread, rfl⟩
    obtain ⟨hle, hline⟩ := List.mk_mem_zipIdx_iff_le_and_getElem?_sub.1 hmem
    refine ⟨number - 1, line, hline, hread, ?_⟩
    have hnumber : ((number - 1 : Nat) : Int) + 1 = number := by omega
    rw [hnumber]
  · rintro ⟨n, line, hline, hread, hlocation⟩
    refine ⟨line, 1 + n, List.mk_add_mem_zipIdx_iff_getElem?.2 hline, _, hread, ?_⟩
    obtain ⟨read, location⟩ := record
    have hnumber : ((1 + n : Nat) : Int) = (n : Int) + 1 := by omega
    rw [hnumber]
    exact congrArg (LocatedRecord.mk read) hlocation.symm

end RecordLine

namespace Reading

variable {reading : Reading} {record : LocatedRecord}

/-- Reading on leaves the store that the call of the record leaves. -/
theorem store_next (hgoing : reading.failure = none) :
    (reading.next record).store = reading.store.after record.call := by
  simp only [next, hgoing]
  rfl

/-- A record that is not taken in ends reading with its failure. -/
theorem failure_next_of_error {failure : Failure} (hgoing : reading.failure = none)
    (h : (reading.store.takeIn record.call).outcome = .error failure) :
    (reading.next record).failure = some failure := by
  have hcall : ((Recording.record record.kind record.fields (some record.location)).runOn
      reading.store).1 = .error failure := Store.fst_handIn_eq_error_iff.2 h
  simp only [next, hgoing, hcall]

/-- A usable record is taken in, and reading goes on. -/
theorem next_of_isUsable (hgoing : reading.failure = none) (h : record.isUsable = true) :
    (reading.next record).failure = none ∧
      (reading.next record).store = reading.store.after record.call := by
  refine ⟨?_, store_next hgoing⟩
  cases hcall : ((Recording.record record.kind record.fields (some record.location)).runOn
      reading.store).1 with
  | ok => simp only [next, hgoing, hcall]
  | error failure =>
    have htaken : (reading.store.takeIn record.call).outcome =
        .ok (reading.store.after record.call) := Store.outcome_takeIn_eq_after reading.store h
    have hfails : (reading.store.handIn record.call).1 = .error failure := hcall
    rw [Store.fst_handIn_eq_error_iff.1 hfails] at htaken
    cases htaken

/-- Any other record ends reading and leaves the store as it was. -/
theorem next_of_not_isUsable (hgoing : reading.failure = none) (h : record.isUsable = false) :
    (∃ failure, (reading.next record).failure = some failure) ∧
      (reading.next record).store = reading.store := by
  have hrejected : record.call.isUsable = false := h
  refine ⟨?_, (store_next hgoing).trans (Store.after_of_not_isUsable _ hrejected)⟩
  cases hcall : (reading.store.takeIn record.call).outcome with
  | ok taken =>
    have husable := (Store.exists_outcome_takeIn_iff reading.store record.call).1 ⟨taken, hcall⟩
    rw [hrejected] at husable
    cases husable
  | error failure => exact ⟨failure, failure_next_of_error hgoing hcall⟩

theorem readRecords_cons (reading : Reading) (record : LocatedRecord)
    (records : List LocatedRecord) :
    readRecords reading (record :: records) = readRecords (reading.next record) records := rfl

/-- **Reading comes to the end exactly if every record is usable.** -/
theorem failure_readRecords_eq_none_iff (hgoing : reading.failure = none)
    (records : List LocatedRecord) :
    (readRecords reading records).failure = none ↔ ∀ record ∈ records, record.isUsable = true := by
  induction records generalizing reading with
  | nil => simpa [readRecords] using hgoing
  | cons record records ih =>
    rw [readRecords_cons, List.forall_mem_cons]
    cases husable : record.isUsable with
    | true =>
      obtain ⟨hnext, -⟩ := next_of_isUsable hgoing husable
      rw [ih hnext]
      exact (and_iff_right rfl).symm
    | false =>
      obtain ⟨⟨failure, hnext⟩, -⟩ := next_of_not_isUsable hgoing husable
      rw [readRecords_of_failure hnext, hnext]
      simp

/-- **The store that reading leaves** is that of the records before the first one that is not
usable. -/
theorem store_readRecords (hgoing : reading.failure = none) (records : List LocatedRecord) :
    (readRecords reading records).store =
      reading.store.afterAll
        ((records.takeWhile fun record => record.isUsable).map LocatedRecord.call) := by
  induction records generalizing reading with
  | nil => rfl
  | cons record records ih =>
    rw [readRecords_cons]
    cases husable : record.isUsable with
    | true =>
      obtain ⟨hnext, hstore⟩ := next_of_isUsable hgoing husable
      have hcall : (record :: records).takeWhile (fun record => record.isUsable) =
          record :: records.takeWhile fun record => record.isUsable :=
        List.takeWhile_cons_of_pos husable
      rw [ih hnext, hstore, hcall, List.map_cons]
      rfl
    | false =>
      obtain ⟨⟨failure, hnext⟩, hstore⟩ := next_of_not_isUsable hgoing husable
      have hstop : (record :: records).takeWhile (fun record => record.isUsable) = [] :=
        List.takeWhile_cons_of_neg (by simp [husable])
      rw [readRecords_of_failure hnext, hstore, hstop]
      rfl

end Reading

namespace Store

variable {text file : String} {store : Store}

/-- **A text is accepted exactly if all its records are usable.**  The store is then what their
calls leave of the empty one. -/
theorem outcome_ofText_eq_ok_iff :
    (ofText text file).outcome = .ok store ↔
      (∀ record ∈ RecordLine.recordsOf text.toList, record.isUsable = true) ∧
        store = empty.afterAll ((RecordLine.ofText file text.toList).map LocatedRecord.call) := by
  have hgoing : (Reading.start empty).failure = none := rfl
  have hend := Reading.failure_readRecords_eq_none_iff hgoing (RecordLine.ofText file text.toList)
  have hstore := Reading.store_readRecords hgoing (RecordLine.ofText file text.toList)
  have hplaced : (∀ record ∈ RecordLine.ofText file text.toList, record.isUsable = true) ↔
      ∀ record ∈ RecordLine.recordsOf text.toList, record.isUsable = true :=
    RecordLine.forall_mem_ofText_iff (P := fun record => record.isUsable = true)
  rw [← hplaced]
  unfold ofText Reading.readText Reading.result
  cases hfailure : (Reading.readRecords (Reading.start empty)
      (RecordLine.ofText file text.toList)).failure with
  | some failure =>
    rw [hfailure] at hend
    have hnot : ¬∀ record ∈ RecordLine.ofText file text.toList, record.isUsable = true :=
      fun h => Option.some_ne_none _ (hend.2 h)
    simp [hfailure, hnot]
  | none =>
    have husable := hend.1 hfailure
    rw [List.takeWhile_eq_self_iff.2 husable] at hstore
    simp only [hfailure, hstore, Except.ok.injEq]
    constructor
    · rintro rfl
      exact ⟨husable, rfl⟩
    · rintro ⟨-, rfl⟩
      rfl

theorem exists_outcome_ofText_iff :
    (∃ store, (ofText text file).outcome = .ok store) ↔
      ∀ record ∈ RecordLine.recordsOf text.toList, record.isUsable = true := by
  simp only [outcome_ofText_eq_ok_iff, exists_and_left, exists_eq, and_true]

/-- The calls of an accepted text do not fail. -/
theorem isUsable_of_mem_calls (hread : (ofText text file).outcome = .ok store) :
    ∀ call ∈ (RecordLine.ofText file text.toList).map LocatedRecord.call,
      call.isUsable = true := by
  have husable : ∀ record ∈ RecordLine.ofText file text.toList, record.isUsable = true :=
    (RecordLine.forall_mem_ofText_iff (P := fun record => record.isUsable = true)).2
      (outcome_ofText_eq_ok_iff.1 hread).1
  intro call hcall
  obtain ⟨record, hmem, rfl⟩ := List.mem_map.1 hcall
  exact husable record hmem

/-- The calls of a text are about its records. -/
theorem map_toRecordLine_calls (file : String) (text : List Char) :
    ((RecordLine.ofText file text).map LocatedRecord.call).map Call.toRecordLine =
      RecordLine.recordsOf text := by
  rw [List.map_map, ← RecordLine.map_toRecordLine_ofText file]
  rfl

/-- Without info records all calls of a text count. -/
theorem sinceInfo_calls (hread : (ofText text file).outcome = .ok store)
    (hinfo : ∀ record ∈ RecordLine.recordsOf text.toList, record.kind? ≠ some .info) :
    Call.sinceInfo ((RecordLine.ofText file text.toList).map LocatedRecord.call) =
      (RecordLine.ofText file text.toList).map LocatedRecord.call := by
  rw [← map_toRecordLine_calls file] at hinfo
  refine Call.sinceInfo_eq_self (isUsable_of_mem_calls hread) fun call hcall => ?_
  exact hinfo _ (List.mem_map_of_mem hcall)

/-- **What is found after a text has been read** in which no info record stands and no id comes
twice: under an id, the entry of the line whose record has it. -/
theorem find?_ofText_eq_some_iff {table : Table} {id : Int} {entry : Entry table}
    (hread : (ofText text file).outcome = .ok store)
    (hinfo : ∀ record ∈ RecordLine.recordsOf text.toList, record.kind? ≠ some .info)
    (hdistinct : RecordLine.HaveDistinctIds (RecordLine.recordsOf text.toList)) :
    store.find? table id = some entry ↔
      ∃ (n : Nat) (line : List Char) (record : RecordLine),
        (Text.lines text.toList)[n]? = some line ∧ RecordLine.ofLine? line = some record ∧
        record.idIn? table = some id ∧ entry = ⟨id, record.decoded, some ⟨file, n + 1⟩⟩ := by
  have hsince := sinceInfo_calls hread hinfo
  obtain ⟨-, rfl⟩ := outcome_ofText_eq_ok_iff.1 hread
  rw [← map_toRecordLine_calls file] at hdistinct
  rw [find?_empty_afterAll, hsince, Option.map_eq_some_iff]
  simp only [Call.lastIn_eq_some_iff hdistinct, List.mem_map, RecordLine.mem_ofText_iff]
  constructor
  · rintro ⟨_, ⟨⟨record, ⟨n, line, hline, hofLine, hlocation⟩, rfl⟩, hid⟩, rfl⟩
    exact ⟨n, line, record.toRecordLine, hline, hofLine, hid, by rw [← hlocation]; rfl⟩
  · rintro ⟨n, line, record, hline, hofLine, hid, rfl⟩
    exact ⟨_, ⟨⟨⟨record, ⟨file, n + 1⟩⟩, ⟨n, line, hline, hofLine, rfl⟩, rfl⟩, hid⟩, rfl⟩

/-- **How many entries there are after a text has been read** in which no info record stands and no
id comes twice: as many as the text has records of the table. -/
theorem count_table_ofText (hread : (ofText text file).outcome = .ok store)
    (hinfo : ∀ record ∈ RecordLine.recordsOf text.toList, record.kind? ≠ some .info)
    (hdistinct : RecordLine.HaveDistinctIds (RecordLine.recordsOf text.toList)) (table : Table) :
    store.count (.table table) =
      (RecordLine.recordsOf text.toList).countP fun record =>
        record.kind? = some (.table table) := by
  have hsince := sinceInfo_calls hread hinfo
  obtain ⟨hrecords, rfl⟩ := outcome_ofText_eq_ok_iff.1 hread
  have hcalls : ((RecordLine.ofText file text.toList).map LocatedRecord.call).filterMap
      (fun call => call.idIn? table) =
      (RecordLine.recordsOf text.toList).filterMap fun record => record.idIn? table := by
    rw [← map_toRecordLine_calls file]
    simp only [List.filterMap_map]
    rfl
  have hnodup : ((RecordLine.recordsOf text.toList).filterMap fun record =>
      record.idIn? table).Nodup := by
    refine List.Pairwise.filterMap _ (fun a b hab id ha id' hb heq => ?_) hdistinct
    subst heq
    exact hab table id ha hb
  rw [count_table_afterAll, hsince, hcalls,
    List.toFinset_card_of_nodup hnodup, List.length_filterMap_eq_countP]
  refine List.countP_congr fun record hrecord => ?_
  rw [decide_eq_true_eq, Option.isSome_iff_exists]
  constructor
  · rintro ⟨id, hid⟩
    exact RecordLine.kind?_of_idIn? hid
  · exact RecordLine.exists_idIn? (hrecords record hrecord)

end Store
end DebugLabels
