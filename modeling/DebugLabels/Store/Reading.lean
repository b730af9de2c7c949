import DebugLabels.Record.Line
import DebugLabels.Store.Recording

/-!
# Reading

A text is read record by record into a store. Reading stops at the first record that fails; what
was recorded before it stays, and nothing after it is looked at. A text that is read to its end is
told of, with the counts of the store.

Reading records one after the other is a fold (`readRecords_append`).
-/

namespace DebugLabels

/-- How far reading has come: the store so far, what was told, and why it stopped, if it did. -/
structure Reading where
  store : Store
  notices : Array Notice
  failure : Option Failure

namespace Reading

/-- Reading starts with a store. -/
def start (store : Store) : Reading := ⟨store, #[], none⟩

/-- The next record. -/
def next (reading : Reading) (record : LocatedRecord) : Reading :=
  match reading.failure with
  | some _ => reading
  | none =>
    let step := Recording.record record.kind record.fields (some record.location)
    let (outcome, left) := step.runOn reading.store
    ⟨left.store, reading.notices ++ left.notices,
      match outcome with
      | .ok () => none
      | .error failure => some failure⟩

/-- Records one after the other. -/
def readRecords (reading : Reading) (records : List LocatedRecord) : Reading :=
  records.foldl next reading

/-- Read a text of a file into a store. -/
def readText (store : Store) (file : String) (text : List Char) : Reading :=
  let reading := readRecords (start store) (RecordLine.ofText file text)
  match reading.failure with
  | some _ => reading
  | none => { reading with notices := reading.notices.push (.read file reading.store.summary) }

/-- The reading as a step that fails where it stopped. -/
def result (reading : Reading) : Logged Store :=
  ⟨reading.notices.toList,
    match reading.failure with
    | some failure => .error failure
    | none => .ok reading.store⟩

theorem readRecords_append (reading : Reading) (first second : List LocatedRecord) :
    readRecords reading (first ++ second) = readRecords (readRecords reading first) second :=
  List.foldl_append

/-- A reading that has stopped stays as it is. -/
theorem readRecords_of_failure {reading : Reading} {failure : Failure}
    (h : reading.failure = some failure) (records : List LocatedRecord) :
    readRecords reading records = reading := by
  induction records with
  | nil => rfl
  | cons record records ih =>
    have hnext : reading.next record = reading := by simp [next, h]
    rw [readRecords, List.foldl_cons, hnext]
    exact ih

end Reading

/-- Read a text that is in memory into a new store. -/
def Store.ofText (text : String) (file : String) : Logged Store :=
  (Reading.readText .empty file text.toList).result

end DebugLabels
