import DebugLabels.Proofs.FileConversion
import DebugLabels.Proofs.Text

/-!
# Reading stops at the first bad line

A line is bad if it is not blank and its record cannot be used: its kind is not one of the twelve,
or it is of a table and has no id, an id that is no decimal number, or a negative one
(`RecordLine.HasFault`, with the error that says so).  A bad line stops reading with that error at
its number and leaves the store as it was (`Reading.readLine_of_hasFault`); after any other line
reading goes on (`Reading.failure_readLine_of_not_isBadLine`).  From these two steps follows what a
run over lines comes to (`Reading.readLines_of_first`).

Such an error shows the number of the line, and besides that only a number that has been read in
decimal and so can be written (`RecordLine.HasFault.isWritable_iff`).  The main statement is
`Reading.reading_stopsAtFirstBadLine`.
-/

namespace DebugLabels

namespace Text

variable {cs : List Char}

/-- The first piece of a cut text is what is before the first separator. -/
theorem fst_cut (sep : Char) (cs : List Char) : (cut sep cs).1 = cs.takeWhile (· ≠ sep) := by
  induction cs with
  | nil => rfl
  | cons c cs ih => by_cases h : c = sep <;> simp [cut, h, ih]

/-- The second piece is what is after it. -/
theorem snd_cut (sep : Char) (cs : List Char) :
    (cut sep cs).2.getD [] = (cs.dropWhile (· ≠ sep)).tail := by
  induction cs with
  | nil => rfl
  | cons c cs ih => by_cases h : c = sep <;> simp [cut, h, ih]

/-- Characters of a class at the end have what all characters of the class have. -/
theorem forall_mem_trimEnd_iff {p q : Char → Bool} (h : ∀ c, p c = true → q c = true) :
    (∀ c ∈ trimEnd p cs, q c = true) ↔ ∀ c ∈ cs, q c = true := by
  induction cs with
  | nil => simp
  | cons c cs ih =>
    rw [trimEnd_cons, List.forall_mem_cons, ← ih]
    split
    · rename_i hend
      rw [Bool.and_eq_true, List.isEmpty_iff] at hend
      simp [hend.1, h c hend.2]
    · exact List.forall_mem_cons

/-- **The first lines of a text** are the lines of what they make up. -/
theorem lines_flatten_of_append {before after : List (List Char)}
    (h : lines cs = before ++ after) : lines before.flatten = before := by
  induction cs generalizing before with
  | nil =>
    obtain ⟨rfl, -⟩ := List.append_eq_nil_iff.1 h.symm
    rfl
  | cons c cs ih =>
    cases before with
    | nil => rfl
    | cons line before =>
      rw [lines_cons, consLine] at h
      split at h
      · rename_i hfeed
        obtain ⟨rfl, hrest⟩ := List.cons.inj h
        rw [List.flatten_cons, List.singleton_append, lines_cons, ih hrest, consLine, if_pos hfeed]
      · rename_i hfeed
        cases hlines : lines cs with
        | nil =>
          rw [hlines] at h
          obtain ⟨rfl, hnone⟩ := List.cons.inj h
          obtain ⟨rfl, -⟩ := List.append_eq_nil_iff.1 hnone.symm
          simp [lines, consLine, hfeed, consFirst]
        | cons first rest =>
          rw [hlines] at h
          obtain ⟨rfl, hrest⟩ := List.cons.inj h
          have hlead : lines (first :: before).flatten = first :: before :=
            ih (by rw [hlines, hrest]; rfl)
          rw [List.flatten_cons, List.cons_append, lines_cons, ← List.flatten_cons, hlead, consLine,
            if_neg hfeed, consFirst]

end Text

namespace RecordLine

variable {record : RecordLine} {line : List Char} {error : Option Location → Error}

/-- What stands in a line without its line end: the kind is what is before the first tab, without
blanks around it, and the fields are what is after it. -/
def atLine (line : List Char) : RecordLine :=
  let body := Text.trimEnd Text.isLineEnd line
  ⟨String.ofList (Text.trim Text.isBlank (body.takeWhile (· ≠ '\t'))),
    String.ofList (body.dropWhile (· ≠ '\t')).tail⟩

theorem ofLine?_eq_some_iff :
    ofLine? line = some record ↔ (¬ ∀ c ∈ line, Text.isBlank c = true) ∧ atLine line = record := by
  have hends : ∀ c, Text.isLineEnd c = true → Text.isBlank c = true := by
    intro c hc
    rcases (by simpa [Text.isLineEnd] using hc : c = '\r' ∨ c = '\n') with rfl | rfl <;> decide
  rw [← Text.forall_mem_trimEnd_iff hends, ← List.all_eq_true]
  unfold ofLine? atLine
  simp only [Text.fst_cut, Text.snd_cut]
  split
  · simp [*]
  · simp [*]

/-- What is wrong with the id of a record of a table.  A number is decimal if it is read as such, so
it has no more digits than may be read. -/
inductive HasIdFault (table : Table) (record : RecordLine) : Malformation → Prop
  | missing (hid : record.decoded.get? "id" = none) : HasIdFault table record (.idMissing table)
  | unreadable {raw : String} (hid : record.decoded.get? "id" = some raw)
      (hread : Numeral.decimal? raw = none) : HasIdFault table record (.idUnreadable table raw)
  | negative {raw : String} {id : Int} (hid : record.decoded.get? "id" = some raw)
      (hread : Numeral.decimal? raw = some id) (hneg : id < 0) :
      HasIdFault table record (.idNegative table id)

/-- What makes a record unusable, as the error about it at a place. -/
inductive HasFault (record : RecordLine) : (Option Location → Error) → Prop
  | unknownKind (hkind : ∀ kind : Kind, record.kind ≠ kind.name) :
      HasFault record (.unknownKind record.kind)
  | malformed {table : Table} {cause : Malformation} (hkind : record.kind = table.name)
      (hid : HasIdFault table record cause) : HasFault record (.malformed cause)

theorem entryId_eq_error_iff {table : Table} {cause : Malformation} :
    Store.entryId table record.decoded = .error cause ↔ HasIdFault table record cause := by
  unfold Store.entryId
  constructor
  · intro h
    split at h
    · exact Except.error.inj h ▸ .missing ‹_›
    · split at h
      · exact Except.error.inj h ▸ .unreadable ‹_› ‹_›
      · split at h
        · exact Except.error.inj h ▸ .negative ‹_› ‹_› ‹_›
        · cases h
  · rintro (hid | ⟨hid, hread⟩ | ⟨hid, hread, hneg⟩)
    · simp only [hid]
    · simp only [hid, hread]
    · simp only [hid, hread, if_pos hneg]

/-- **The line alone decides whether the error can be worded**: any other number that it shows has
been read in decimal. -/
theorem HasFault.isWritable_iff (h : record.HasFault error) (location : Option Location) :
    (error location).IsWritable ↔ ∀ place ∈ location, place.IsWritable := by
  rcases h with _ | ⟨-, hid⟩
  · simp [Error.unknownKind, Error.isWritable_record_iff, RecordFault.numbers]
  · exact Error.isWritable_malformed_iff.trans
      (and_iff_left (Store.isWritable_of_entryId_error (entryId_eq_error_iff.2 hid)))

theorem kind?_eq_none_iff : record.kind? = none ↔ ∀ kind : Kind, record.kind ≠ kind.name := by
  simp only [kind?, Option.eq_none_iff_forall_ne_some, ne_eq, Kind.ofName?_eq_some_iff]

/-- The line is not blank and its record has the fault. -/
def LineHasFault (line : List Char) (error : Option Location → Error) : Prop :=
  (¬ ∀ c ∈ line, Text.isBlank c = true) ∧ (atLine line).HasFault error

/-- The line is not blank and its record cannot be used. -/
def IsBadLine (line : List Char) : Prop := ∃ error, LineHasFault line error

/-- Two lines are blank alike, and agree in their kinds and in their id fields. -/
structure SameKindAndId (line other : List Char) : Prop where
  blank : (∀ c ∈ other, Text.isBlank c = true) ↔ ∀ c ∈ line, Text.isBlank c = true
  kind : (atLine other).kind = (atLine line).kind
  id : (atLine other).decoded.get? "id" = (atLine line).decoded.get? "id"

theorem SameKindAndId.symm {other : List Char} (h : SameKindAndId line other) :
    SameKindAndId other line :=
  ⟨h.blank.symm, h.kind.symm, h.id.symm⟩

/-- A fault is a matter of the kind and the id. -/
theorem SameKindAndId.lineHasFault {other : List Char} (h : SameKindAndId line other)
    (hfault : LineHasFault line error) : LineHasFault other error := by
  obtain ⟨hfull, hfault⟩ := hfault
  refine ⟨h.blank.not.2 hfull, ?_⟩
  rcases hfault with hkind | ⟨hkind, hid⟩
  · rw [← h.kind] at hkind ⊢
    exact .unknownKind hkind
  · rw [← h.kind] at hkind
    refine .malformed hkind ?_
    rcases hid with hid | ⟨hid, hread⟩ | ⟨hid, hread, hneg⟩ <;> rw [← h.id] at hid
    · exact .missing hid
    · exact .unreadable hid hread
    · exact .negative hid hread hneg

end RecordLine

open RecordLine (IsBadLine LineHasFault SameKindAndId)

namespace Store

variable {call : Call} {error : Option Location → Error}

/-- **A record with a fault fails** with the error about it, at its place. -/
theorem outcome_takeIn_of_hasFault (store : Store) (h : call.HasFault error) :
    (store.takeIn call).outcome = .error (.ofError (error call.location)) := by
  rw [outcome_takeIn]
  rcases h with hunknown | ⟨hname, hid⟩
  · rw [RecordLine.kind?_eq_none_iff.2 hunknown]
  · have hkind : call.kind? = some (.table _) := Kind.ofName?_eq_some_iff.2 hname
    rw [hkind]
    simp only [RecordLine.entryId_eq_error_iff.2 hid]

/-- A record has a fault exactly if it is not usable. -/
theorem exists_hasFault_iff {record : RecordLine} :
    (∃ error, record.HasFault error) ↔ record.isUsable = false := by
  constructor
  · rintro ⟨error, hfault⟩
    cases husable : record.isUsable with
    | false => rfl
    | true =>
      obtain ⟨taken, htaken⟩ := (exists_outcome_takeIn_iff empty ⟨record, none⟩).2 husable
      rw [outcome_takeIn_of_hasFault empty hfault] at htaken
      cases htaken
  · intro h
    unfold RecordLine.isUsable at h
    split at h
    · exact ⟨_, .unknownKind (RecordLine.kind?_eq_none_iff.1 ‹_›)⟩
    · rename_i table hkind
      cases hid : entryId table record.decoded with
      | error cause =>
        exact ⟨_, .malformed (Kind.ofName?_eq_some_iff.1 hkind)
          (RecordLine.entryId_eq_error_iff.1 hid)⟩
      | ok id =>
        obtain ⟨hnumber, hle⟩ := RecordLine.entryId_eq_ok_iff.1 hid
        simp [hnumber, hle] at h
    · cases h

/-- The record of a line that is not bad is usable. -/
theorem isUsable_of_not_isBadLine {record : RecordLine} {line : List Char}
    (hrecord : RecordLine.ofLine? line = some record) (h : ¬ IsBadLine line) :
    record.isUsable = true := by
  obtain ⟨hfull, rfl⟩ := RecordLine.ofLine?_eq_some_iff.1 hrecord
  rw [← Bool.not_eq_false, ← exists_hasFault_iff]
  rintro ⟨error, hfault⟩
  exact h ⟨error, hfull, hfault⟩

end Store

namespace Reading

variable {reading : Reading} {file : String} {number : Nat} {line : List Char}
  {error : Option Location → Error}

/-- The line of a file under a number. -/
def readLine (reading : Reading) (file : String) (line : List Char) (number : Nat) : Reading :=
  match RecordLine.ofLine? line with
  | none => reading
  | some record => reading.next { record with location := ⟨file, number⟩ }

/-- Lines of a file one after the other, the first of them under a number. -/
def readLines (reading : Reading) (file : String) (lines : List (List Char)) (number : Nat) :
    Reading :=
  readRecords reading (RecordLine.located file (lines.zipIdx number))

theorem readLines_append (reading : Reading) (file : String) (first second : List (List Char))
    (number : Nat) :
    readLines reading file (first ++ second) number =
      readLines (readLines reading file first number) file second (number + first.length) := by
  rw [readLines, List.zipIdx_append, RecordLine.located, List.filterMap_append, readRecords_append]
  rfl

theorem readLines_cons (reading : Reading) (file : String) (line : List Char)
    (lines : List (List Char)) (number : Nat) :
    readLines reading file (line :: lines) number =
      readLines (reading.readLine file line number) file lines (number + 1) := by
  unfold readLine
  cases hrecord : RecordLine.ofLine? line with
  | none => simp [readLines, RecordLine.located, hrecord]
  | some record => simp [readLines, RecordLine.located, hrecord, readRecords_cons]

/-- After a line that is not bad reading goes on. -/
theorem failure_readLine_of_not_isBadLine (hgoing : reading.failure = none)
    (h : ¬ IsBadLine line) : (reading.readLine file line number).failure = none := by
  unfold readLine
  cases hrecord : RecordLine.ofLine? line with
  | none => exact hgoing
  | some record =>
    exact (next_of_isUsable hgoing (Store.isUsable_of_not_isBadLine hrecord h)).1

/-- **A bad line stops reading** with the error about it, at its number, and leaves the store as it
was. -/
theorem readLine_of_hasFault (hgoing : reading.failure = none) (h : LineHasFault line error)
    (file : String) (number : Nat) :
    (reading.readLine file line number).failure =
        some (.ofError (error (some ⟨file, number⟩))) ∧
      (reading.readLine file line number).store = reading.store := by
  obtain ⟨hfull, hfault⟩ := h
  have hrecord := RecordLine.ofLine?_eq_some_iff.2 ⟨hfull, rfl⟩
  have hunusable := Store.exists_hasFault_iff.1 ⟨error, hfault⟩
  unfold readLine
  rw [hrecord]
  exact ⟨failure_next_of_error hgoing (Store.outcome_takeIn_of_hasFault reading.store hfault),
    (next_of_not_isUsable hgoing hunusable).2⟩

/-- **Lines that are not bad are read to the end.** -/
theorem failure_readLines_of_forall (hgoing : reading.failure = none) {lines : List (List Char)}
    (h : ∀ line ∈ lines, ¬ IsBadLine line) :
    (readLines reading file lines number).failure = none := by
  induction lines generalizing reading number with
  | nil => exact hgoing
  | cons line lines ih =>
    rw [List.forall_mem_cons] at h
    rw [readLines_cons]
    exact ih (failure_readLine_of_not_isBadLine hgoing h.1) h.2

/-- No line after a bad one is looked at. -/
theorem readLines_cons_of_hasFault (hgoing : reading.failure = none)
    (h : LineHasFault line error) (after : List (List Char)) :
    (readLines reading file (line :: after) number).failure =
        some (.ofError (error (some ⟨file, number⟩))) ∧
      (readLines reading file (line :: after) number).store = reading.store := by
  obtain ⟨hfailure, hstore⟩ := readLine_of_hasFault hgoing h file number
  have hstop : readLines reading file (line :: after) number =
      reading.readLine file line number := by
    rw [readLines_cons]
    exact readRecords_of_failure hfailure _
  rw [hstop]
  exact ⟨hfailure, hstore⟩

/-- **Reading stops at the first bad line**, and leaves the store that the lines before it make. -/
theorem readLines_of_first (hgoing : reading.failure = none) {before : List (List Char)}
    (hbefore : ∀ earlier ∈ before, ¬ IsBadLine earlier) (h : LineHasFault line error)
    (after : List (List Char)) :
    (readLines reading file (before ++ line :: after) number).failure =
        some (.ofError (error (some ⟨file, (number + before.length : Nat)⟩))) ∧
      (readLines reading file (before ++ line :: after) number).store =
        (readLines reading file before number).store := by
  rw [readLines_append]
  exact readLines_cons_of_hasFault (failure_readLines_of_forall hgoing hbefore) h after

/-- **Nothing but kinds and ids makes reading fail**: two runs over lines that agree in them fail
alike. -/
theorem failure_readLines_congr {lines others : List (List Char)}
    (h : List.Forall₂ SameKindAndId lines others) {other : Reading}
    (hgoing : reading.failure = none) (hother : other.failure = none) :
    (readLines other file others number).failure =
      (readLines reading file lines number).failure := by
  induction h generalizing reading other number with
  | nil => exact hother.trans hgoing.symm
  | @cons line line' _ _ hline _ ih =>
    by_cases hbad : IsBadLine line
    · obtain ⟨error, hfault⟩ := hbad
      have hfault' : LineHasFault line' error := hline.lineHasFault hfault
      rw [(readLines_cons_of_hasFault hgoing hfault _).1,
        (readLines_cons_of_hasFault hother hfault' _).1]
    · have hbad' : ¬ IsBadLine line' := fun ⟨error, hfault⟩ =>
        hbad ⟨error, hline.symm.lineHasFault hfault⟩
      rw [readLines_cons, readLines_cons]
      exact ih (failure_readLine_of_not_isBadLine hgoing hbad)
        (failure_readLine_of_not_isBadLine hother hbad')

/-! ### Texts and files -/

/-- A text is read line by line. -/
theorem failure_readText (store : Store) (file : String) (text : List Char) :
    (readText store file text).failure =
      (readLines (start store) file (Text.lines text) 1).failure := by
  unfold readText
  dsimp only
  split
  · rfl
  · rfl

theorem store_readText (store : Store) (file : String) (text : List Char) :
    (readText store file text).store =
      (readLines (start store) file (Text.lines text) 1).store := by
  unfold readText
  dsimp only
  split
  · rfl
  · rfl

/-- The error that reading the lines of a file stops with: that about the first bad line, at its
number.  Lines count from 1, blank ones too. -/
def StopsWith (file : String) (lines : List (List Char)) (e : Error) : Prop :=
  ∃ before line after error, lines = before ++ line :: after ∧
    (∀ earlier ∈ before, ¬ IsBadLine earlier) ∧ LineHasFault line error ∧
    e = error (some ⟨file, before.length + 1⟩)

/-- **The error can be worded**, if the number of all lines can be written. -/
theorem StopsWith.isWritable {lines : List (List Char)} {e : Error} (h : StopsWith file lines e)
    (hlines : Numeral.IsWritable lines.length) : e.IsWritable := by
  obtain ⟨before, line, after, error, rfl, -, ⟨-, hfault⟩, rfl⟩ := h
  refine (hfault.isWritable_iff _).2 fun place hplace => ?_
  obtain rfl := Option.some.inj hplace
  rw [List.length_append, List.length_cons] at hlines
  exact hlines.mono (m := (before.length : Int) + 1) (by omega)

/-- Among lines of which one is bad there is a first bad one. -/
theorem exists_first_isBadLine {lines : List (List Char)} (h : ∃ line ∈ lines, IsBadLine line) :
    ∃ before line after, lines = before ++ line :: after ∧
      (∀ earlier ∈ before, ¬ IsBadLine earlier) ∧ IsBadLine line := by
  classical
  obtain ⟨line, hfind⟩ : ∃ line, lines.find? (fun line => decide (IsBadLine line)) = some line := by
    rw [← Option.isSome_iff_exists, List.find?_isSome]
    simpa using h
  obtain ⟨hbad, before, after, rfl, hbefore⟩ := List.find?_eq_some_iff_append.1 hfind
  exact ⟨before, line, after, rfl, by simpa using hbefore, by simpa using hbad⟩

theorem failure_readText_of_first {store : Store} {text : List Char}
    {before after : List (List Char)} (hlines : Text.lines text = before ++ line :: after)
    (hbefore : ∀ earlier ∈ before, ¬ IsBadLine earlier) (h : LineHasFault line error) :
    (readText store file text).failure =
      some (.ofError (error (some ⟨file, before.length + 1⟩))) := by
  have hnumber : ((1 + before.length : Nat) : Int) = before.length + 1 := by omega
  rw [failure_readText, hlines, (readLines_of_first rfl hbefore h after).1, hnumber]

/-- **How reading a text fails.** -/
theorem failure_readText_eq_some_iff {store : Store} {text : List Char} {failure : Failure} :
    (readText store file text).failure = some failure ↔
      ∃ e, StopsWith file (Text.lines text) e ∧ failure = .ofError e := by
  constructor
  · intro h
    have hbad : ∃ line ∈ Text.lines text, IsBadLine line := by
      by_contra hnone
      push Not at hnone
      rw [failure_readText, failure_readLines_of_forall rfl hnone] at h
      cases h
    obtain ⟨before, line, after, hlines, hbefore, error, hfault⟩ := exists_first_isBadLine hbad
    rw [failure_readText_of_first hlines hbefore hfault, Option.some.injEq] at h
    exact ⟨_, ⟨before, line, after, error, hlines, hbefore, hfault, rfl⟩, h.symm⟩
  · rintro ⟨_, ⟨before, line, after, error, hlines, hbefore, hfault, rfl⟩, rfl⟩
    exact failure_readText_of_first hlines hbefore hfault

/-- The failure is the error, unless the text has more lines than a number can say. -/
theorem exists_stopsWith_congr {lines : List (List Char)} {failure : Failure}
    (hlines : Numeral.IsWritable lines.length) :
    (∃ e, StopsWith file lines e ∧ failure = .ofError e) ↔
      ∃ e, StopsWith file lines e ∧ failure = .error e := by
  refine exists_congr fun e => and_congr_right fun h => ?_
  rw [Failure.ofError_of_isWritable (h.isWritable hlines)]

/-- **Whether reading a text fails.** -/
theorem exists_failure_readText_iff {store : Store} {text : List Char} :
    (∃ failure, (readText store file text).failure = some failure) ↔
      ∃ line ∈ Text.lines text, IsBadLine line := by
  simp only [failure_readText_eq_some_iff]
  constructor
  · rintro ⟨failure, _, ⟨before, line, after, error, hlines, -, hfault, -⟩, -⟩
    exact ⟨line, by simp [hlines], error, hfault⟩
  · intro h
    obtain ⟨before, line, after, hlines, hbefore, error, hfault⟩ := exists_first_isBadLine h
    exact ⟨_, _, ⟨before, line, after, error, hlines, hbefore, hfault, rfl⟩, rfl⟩

/-- **What a text leaves that fails**: the store that its lines before the first bad one make. -/
theorem store_readText_of_first {store : Store} {text : List Char}
    {before after : List (List Char)} (hlines : Text.lines text = before ++ line :: after)
    (hbefore : ∀ earlier ∈ before, ¬ IsBadLine earlier) (h : IsBadLine line) :
    Text.lines before.flatten = before ∧ (readText store file before.flatten).failure = none ∧
      (readText store file text).store = (readText store file before.flatten).store := by
  obtain ⟨error, hfault⟩ := h
  have hlead := Text.lines_flatten_of_append hlines
  refine ⟨hlead, ?_, ?_⟩
  · rw [failure_readText, hlead]
    exact failure_readLines_of_forall rfl hbefore
  · rw [store_readText, store_readText, hlead, hlines]
    exact (readLines_of_first rfl hbefore hfault after).2

/-- A file that is open is read as its text is. -/
theorem outcome_readDebugFile {files : Files} {path : Path} {content : ByteArray}
    (h : files.read path = .ok content) :
    ((readDebugFile Files.disk path).run files).1.outcome =
      (readText .empty path.name (debugFileText content)).result.outcome := by
  show (storeOfFile path (files.read path)).outcome = _
  rw [h, Files.outcome_storeOfFile]
  dsimp only
  rw [Store.ofText, String.toList_ofList]

theorem outcome_result_eq_error_iff {failure : Failure} :
    reading.result.outcome = .error failure ↔ reading.failure = some failure := by
  unfold result
  cases reading.failure <;> simp

/-- **Reading stops at the first bad line.**  For every text, under every file name and into every
store:

* reading fails exactly if some line is bad;
* it fails with the error about the first bad line, at its number, which can be worded unless the
  text has more lines than a number can say;
* the store is then that of the lines before it, which are read to the end;
* lines that agree in their kinds and id fields fail alike, whatever their other fields.

A debug file that can be opened is read as the text of its bytes, into the empty store. -/
theorem reading_stopsAtFirstBadLine :
    (∀ (store : Store) (file : String) (text : List Char),
      ((∃ failure, (readText store file text).failure = some failure) ↔
        ∃ line ∈ Text.lines text, IsBadLine line) ∧
      (∀ failure, (readText store file text).failure = some failure ↔
        ∃ e, StopsWith file (Text.lines text) e ∧ failure = .ofError e) ∧
      (Numeral.IsWritable (Text.lines text).length →
        ∀ failure, (readText store file text).failure = some failure ↔
          ∃ e, StopsWith file (Text.lines text) e ∧ failure = .error e) ∧
      (∀ before line after, Text.lines text = before ++ line :: after →
        (∀ earlier ∈ before, ¬ IsBadLine earlier) → IsBadLine line →
        Text.lines before.flatten = before ∧
          (readText store file before.flatten).failure = none ∧
          (readText store file text).store = (readText store file before.flatten).store) ∧
      ∀ (store' : Store) (other : List Char),
        List.Forall₂ SameKindAndId (Text.lines text) (Text.lines other) →
        (readText store' file other).failure = (readText store file text).failure) ∧
    ∀ (files : Files) (path : Path) (content : ByteArray), files.read path = .ok content →
      ((readDebugFile Files.disk path).run files).1.outcome =
          (readText .empty path.name (debugFileText content)).result.outcome ∧
        (∀ failure, ((readDebugFile Files.disk path).run files).1.outcome = .error failure ↔
          ∃ e, StopsWith path.name (Text.lines (debugFileText content)) e ∧
            failure = .ofError e) ∧
        (Numeral.IsWritable (Text.lines (debugFileText content)).length →
          ∀ failure, ((readDebugFile Files.disk path).run files).1.outcome = .error failure ↔
            ∃ e, StopsWith path.name (Text.lines (debugFileText content)) e ∧
              failure = .error e) := by
  constructor
  · intro store file text
    refine ⟨exists_failure_readText_iff, fun _ => failure_readText_eq_some_iff,
      fun hlines _ => failure_readText_eq_some_iff.trans (exists_stopsWith_congr hlines),
      fun _ _ _ => store_readText_of_first, fun store' other h => ?_⟩
    rw [failure_readText, failure_readText]
    exact failure_readLines_congr h rfl rfl
  · intro files path content h
    have hfails : ∀ failure, ((readDebugFile Files.disk path).run files).1.outcome =
        .error failure ↔ ∃ e, StopsWith path.name (Text.lines (debugFileText content)) e ∧
          failure = .ofError e := fun failure => by
      rw [outcome_readDebugFile h, outcome_result_eq_error_iff, failure_readText_eq_some_iff]
    exact ⟨outcome_readDebugFile h, hfails,
      fun hlines failure => (hfails failure).trans (exists_stopsWith_congr hlines)⟩

set_option maxRecDepth 2000 in
/-- A text whose fourth line, after a blank one, has an id that is not decimal. -/
theorem reading_stopsAtFirstBadLine_fourth :
    let text := "version\tmajor=x\n \nseg\tid=7\nsym\tid=$1\nx\n".toList
    let e := .malformed (.idUnreadable .symbol "$1") (some ⟨"a", 4⟩)
    (readText .empty "a" text).failure = some (.error e) ∧ StopsWith "a" (Text.lines text) e := by
  have hlines : Numeral.IsWritable
      (Text.lines "version\tmajor=x\n \nseg\tid=7\nsym\tid=$1\nx\n".toList).length := by
    decide +kernel
  have hfailure : (readText .empty "a"
      "version\tmajor=x\n \nseg\tid=7\nsym\tid=$1\nx\n".toList).failure =
        some (.error (.malformed (.idUnreadable .symbol "$1") (some ⟨"a", 4⟩))) := by
    rw [← Failure.ofError_of_isWritable (by decide +kernel)]
    rfl
  obtain ⟨e, hstops, heq⟩ :=
    ((reading_stopsAtFirstBadLine.1 .empty "a" _).2.2.1 hlines _).1 hfailure
  exact ⟨hfailure, Failure.error.inj heq ▸ hstops⟩

end Reading

end DebugLabels
