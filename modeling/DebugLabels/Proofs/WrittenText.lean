import DebugLabels.Proofs.Links
import DebugLabels.Proofs.Reading
import DebugLabels.Proofs.WrittenNumber

/-!
# A written text is read back

A `WrittenRecord` is a record of a table as it is written on one line: the name of the table, a tab,
the id, and further fields, each bare or in quotes.  A `WrittenLine` is such a record or a blank
line.  Lines are sound if what they hold survives each layer of reading: no line end inside a field,
no quote, a comma only in quotes, no blank around a key.

`pairs_decoded_read` and `ofLine?_body` read one line back.  The main statement, `ofText_textOf`,
reads a text of sound lines with distinct ids back: the tables hold exactly what was written, each
entry with the fields and the line number of its record.
-/

namespace DebugLabels

/-- A field as it is written: bare, or with its value in quotes. -/
structure WrittenField where
  key : String
  value : String
  quoted : Bool
  deriving DecidableEq, Repr

namespace WrittenField

variable {field : WrittenField}

/-- The field is read as it was meant. -/
structure IsSound (field : WrittenField) : Prop where
  key_head : ∀ c ∈ field.key.toList.head?, Text.isBlank c = false
  key_last : ∀ c ∈ field.key.toList.getLast?, Text.isBlank c = false
  key_plain : ∀ c ∈ field.key.toList, c ∉ [',', '=', '"', '\r', '\n']
  value_plain : ∀ c ∈ field.value.toList, c ∉ ['"', '\r', '\n']
  comma_quoted : ',' ∈ field.value.toList → field.quoted = true

/-- The value as it is written. -/
def valueText (field : WrittenField) : List Char :=
  if field.quoted then '"' :: (field.value.toList ++ ['"']) else field.value.toList

/-- The field as it is written. -/
def text (field : WrittenField) : List Char := field.key.toList ++ '=' :: field.valueText

theorem IsSound.not_mem_key (h : field.IsSound) {c : Char} (hc : c ∈ [',', '=', '"', '\r', '\n']) :
    c ∉ field.key.toList := fun hmem => h.key_plain c hmem hc

theorem IsSound.not_mem_value (h : field.IsSound) {c : Char} (hc : c ∈ ['"', '\r', '\n']) :
    c ∉ field.value.toList := fun hmem => h.value_plain c hmem hc

/-- Without its quotes, the value as it is written is the value. -/
theorem filter_valueText (h : field.IsSound) :
    field.valueText.filter (· ≠ '"') = field.value.toList := by
  have hvalue : field.value.toList.filter (· ≠ '"') = field.value.toList := by
    refine List.filter_eq_self.2 fun c hc => ?_
    have hne : c ≠ '"' := fun heq => h.value_plain c hc (heq ▸ by simp)
    exact decide_eq_true hne
  unfold valueText
  split
  · rw [List.filter_cons_of_neg (by simp), List.filter_append, hvalue]
    simp
  · exact hvalue

/-- **The field is read with its key and its value.** -/
theorem readPair_text (h : field.IsSound) :
    Fields.readPair field.text = (field.key, some field.value) := by
  rw [Fields.readPair, text, Text.cut_append (h.not_mem_key (by simp))]
  simp only [Option.map_some, Text.trim_eq_self h.key_head h.key_last, filter_valueText h,
    String.ofList_toList]

/-- Every quote of the field closes. -/
theorem count_quote_text (h : field.IsSound) : field.text.count '"' % 2 = 0 := by
  have hkey : field.key.toList.count '"' = 0 := List.count_eq_zero.2 (h.not_mem_key (by simp))
  have hvalue : field.value.toList.count '"' = 0 := List.count_eq_zero.2 (h.not_mem_value (by simp))
  have hequal : ('=' :: field.valueText).count '"' = field.valueText.count '"' :=
    List.count_cons_of_ne (by decide)
  rw [text, List.count_append, hkey, hequal, valueText]
  split
  · rw [List.count_cons_self, List.count_append, hvalue]
    decide
  · rw [hvalue]

/-- No comma of the field splits it. -/
theorem splitUnquoted_text (h : field.IsSound) : Text.splitUnquoted field.text = [field.text] := by
  have hkey : ',' ∉ field.key.toList ∧ '"' ∉ field.key.toList :=
    ⟨h.not_mem_key (by simp), h.not_mem_key (by simp)⟩
  have hquote : '"' ∉ field.value.toList := h.not_mem_value (by simp)
  have hvalue : Text.splitUnquotedFrom false ('=' :: field.valueText) =
      ['=' :: field.valueText] := by
    unfold valueText
    split
    · -- the quote in front opens, and the one at the end closes
      have hinside := Text.splitUnquotedFrom_true hquote
      rw [Text.splitUnquotedFrom, if_neg (by simp), if_neg (by decide), Text.splitUnquotedFrom,
        if_neg (by simp), if_pos rfl, Bool.not_false, hinside]
      rfl
    · rename_i hbare
      have hcomma : ',' ∉ field.value.toList := fun hmem => hbare (h.comma_quoted hmem)
      have hbareText : Text.splitUnquotedFrom false (['='] ++ field.value.toList ++ []) =
          [['='] ++ field.value.toList ++ []] :=
        Text.splitUnquotedFrom_append_of_plain (by simpa using hcomma) (by simpa using hquote) rfl
      simpa using hbareText
  exact Text.splitUnquotedFrom_append_of_plain hkey.1 hkey.2 hvalue

/-- The field holds no line end. -/
theorem not_mem_text (h : field.IsSound) {c : Char} (hc : c ∈ ['\r', '\n']) : c ∉ field.text := by
  have hplain : c ≠ '=' ∧ c ≠ '"' := by
    simp only [List.mem_cons, List.not_mem_nil, or_false] at hc
    rcases hc with rfl | rfl <;> decide
  have hkey : c ∉ field.key.toList := h.not_mem_key (by simp_all)
  have hvalue : c ∉ field.value.toList := h.not_mem_value (by simp_all)
  unfold text valueText
  split <;> simp [hplain, hkey, hvalue]

end WrittenField

/-! ### Fields with distinct keys -/

/-- A new key goes to the end. -/
theorem putPair_of_not_mem {key : String} (value : String) {pairs : List (String × String)}
    (h : key ∉ pairs.map Prod.fst) : putPair key value pairs = pairs ++ [(key, value)] := by
  induction pairs with
  | nil => rfl
  | cons pair pairs ih =>
    rw [List.map_cons, List.mem_cons, not_or] at h
    rw [putPair, if_neg (Ne.symm h.1), ih h.2, List.cons_append]

/-- **Fields with distinct keys are kept as they come.** -/
theorem pairs_foldl_insertPair {fields : Fields} {pairs : List (String × Option String)}
    (h : (fields.pairs.map Prod.fst ++ pairs.map Prod.fst).Nodup) :
    (pairs.foldl Fields.insertPair fields).pairs =
      fields.pairs ++ pairs.map fun pair => (pair.1, pair.2.getD "") := by
  induction pairs generalizing fields with
  | nil => simp
  | cons pair pairs ih =>
    have hnew : pair.1 ∉ fields.pairs.map Prod.fst := by
      intro hmem
      exact (List.nodup_append.1 h).2.2 pair.1 hmem pair.1 (by simp) rfl
    have hput : (fields.insertPair pair).pairs = fields.pairs ++ [(pair.1, pair.2.getD "")] :=
      putPair_of_not_mem (pair.2.getD "") hnew
    rw [List.foldl_cons, ih (by simpa [hput] using h), hput, List.append_assoc]
    rfl

theorem Fields.eq_of_pairs {a b : Fields} (h : a.pairs = b.pairs) : a = b := by
  cases a
  cases b
  cases h
  rfl

/-- A record of a table as it is written: the id first, then further fields. -/
structure WrittenRecord where
  table : Table
  id : Nat
  fields : List WrittenField
  deriving DecidableEq, Repr

namespace WrittenRecord

variable {record : WrittenRecord}

/-- All fields as they are written, with the id in front. -/
def allFields (record : WrittenRecord) : List WrittenField :=
  ⟨"id", Numeral.decimal record.id, false⟩ :: record.fields

/-- The record is read as it was meant. -/
structure IsSound (record : WrittenRecord) : Prop where
  id_lt : record.id < Nat.pow 10 Numeral.digitLimit
  fields : ∀ field ∈ record.fields, field.IsSound
  keys : ("id" :: record.fields.map WrittenField.key).Nodup

/-- The fields as they are written, joined by commas. -/
def fieldsText (record : WrittenRecord) : List Char :=
  List.intercalate [','] (record.allFields.map WrittenField.text)

/-- The record as it is written: the name of the table, a tab, and the fields. -/
def text (record : WrittenRecord) : List Char :=
  record.table.name.toList ++ '\t' :: record.fieldsText

/-- The record that is read. -/
def read (record : WrittenRecord) : RecordLine :=
  ⟨record.table.name, String.ofList record.fieldsText⟩

/-- The id is a sound field. -/
theorem isSound_id (n : Nat) : WrittenField.IsSound ⟨"id", Numeral.decimal n, false⟩ := by
  have hdigits : ∀ c ∈ Numeral.write .decimal n, c ∉ [',', '"', '\r', '\n'] := by
    intro c hc
    have hwrite : Numeral.write .decimal n = Nat.toDigits Radix.decimal.base n := by
      simp [Numeral.write, Numeral.sign]
    rw [hwrite] at hc
    exact Numeral.of_mem_toDigits (P := fun c => c ∉ [',', '"', '\r', '\n']) (by decide) hc
  have hblank : Text.isBlank 'i' = false ∧ Text.isBlank 'd' = false := by decide
  refine ⟨by simpa using hblank.1, by simpa using hblank.2, by simp, ?_, ?_⟩
  · intro c hc hmem
    rw [Numeral.decimal, String.toList_ofList] at hc
    exact hdigits c hc (List.mem_cons_of_mem _ hmem)
  · intro hmem
    rw [Numeral.decimal, String.toList_ofList] at hmem
    exact absurd (by simp) (hdigits ',' hmem)

theorem isSound_of_mem_allFields (h : record.IsSound) :
    ∀ field ∈ record.allFields, field.IsSound := by
  intro field hfield
  rcases List.mem_cons.1 hfield with rfl | hfield
  · exact isSound_id record.id
  · exact h.fields field hfield

/-- **The fields of a record are read in the order in which they are written.** -/
theorem pairs_decoded_read (h : record.IsSound) :
    record.read.decoded.pairs =
      record.allFields.map fun field => (field.key, field.value) := by
  have hpieces : Fields.readPairs record.read.fields =
      record.allFields.map fun field => (field.key, some field.value) := by
    have hsplit : Text.splitUnquoted record.fieldsText =
        record.allFields.map WrittenField.text := by
      refine Text.splitUnquoted_intercalate (by simp [allFields]) fun piece hpiece => ?_
      obtain ⟨field, hfield, rfl⟩ := List.mem_map.1 hpiece
      have hsound := isSound_of_mem_allFields h field hfield
      exact ⟨WrittenField.splitUnquoted_text hsound, WrittenField.count_quote_text hsound⟩
    have hfull : (record.allFields.map WrittenField.text).filter (!·.isEmpty) =
        record.allFields.map WrittenField.text := by
      refine List.filter_eq_self.2 fun piece hpiece => ?_
      obtain ⟨field, -, rfl⟩ := List.mem_map.1 hpiece
      simp [WrittenField.text]
    rw [Fields.readPairs, read, String.toList_ofList, hsplit, hfull, List.map_map]
    exact List.map_congr_left fun field hfield =>
      WrittenField.readPair_text (isSound_of_mem_allFields h field hfield)
  have hkeys : (Fields.empty.pairs.map Prod.fst ++
      (record.allFields.map fun field => (field.key, some field.value)).map Prod.fst).Nodup := by
    rw [List.map_map]
    exact h.keys
  rw [RecordLine.decoded, Fields.decode, hpieces, pairs_foldl_insertPair hkeys, List.map_map]
  rfl

/-- The fields hold no line end. -/
theorem not_mem_fieldsText (h : record.IsSound) {c : Char} (hc : c ∈ ['\r', '\n']) :
    c ∉ record.fieldsText := by
  have hcomma : c ≠ ',' := by
    simp only [List.mem_cons, List.not_mem_nil, or_false] at hc
    rcases hc with rfl | rfl <;> decide
  refine Text.not_mem_intercalate (by simpa using hcomma) fun piece hpiece => ?_
  obtain ⟨field, hfield, rfl⟩ := List.mem_map.1 hpiece
  exact WrittenField.not_mem_text (isSound_of_mem_allFields h field hfield) hc

/-- The name of a table is a plain word. -/
theorem name_toList (table : Table) :
    Text.trim Text.isBlank table.name.toList = table.name.toList ∧
      ∀ c ∈ ['\t', '\r', '\n'], c ∉ table.name.toList := by
  constructor
  · cases table <;> decide
  · cases table <;> simp [Table.name]

theorem not_mem_text (h : record.IsSound) {c : Char} (hc : c ∈ ['\r', '\n']) :
    c ∉ record.text := by
  have hname : c ∉ record.table.name.toList :=
    (name_toList record.table).2 c (List.mem_cons_of_mem _ hc)
  have htab : c ≠ '\t' := by
    simp only [List.mem_cons, List.not_mem_nil, or_false] at hc
    rcases hc with rfl | rfl <;> decide
  rw [text, List.mem_append, List.mem_cons, not_or, not_or]
  exact ⟨hname, htab, not_mem_fieldsText h hc⟩

/-- **A line with the record is read as the record**, whatever ends it. -/
theorem ofLine?_text (h : record.IsSound) {ending : List Char}
    (hending : ∀ c ∈ ending, Text.isLineEnd c = true) :
    RecordLine.ofLine? (record.text ++ ending) = some record.read := by
  have htrim : Text.trimEnd Text.isLineEnd (record.text ++ ending) = record.text := by
    rw [Text.trimEnd_append_of_all hending]
    refine Text.trimEnd_eq_self fun c hc => ?_
    have hmem : c ∈ record.text := List.mem_of_mem_getLast? hc
    have hends : c ≠ '\r' ∧ c ≠ '\n' := by
      constructor <;> rintro rfl
      · exact not_mem_text h (by simp) hmem
      · exact not_mem_text h (by simp) hmem
    simp [Text.isLineEnd, hends]
  have hfull : ¬record.text.all Text.isBlank = true := by
    intro hall
    have hequal : '=' ∈ record.text := by
      simp [text, fieldsText, allFields, WrittenField.text]
    have hblank : Text.isBlank '=' = true := List.all_eq_true.1 hall '=' hequal
    exact absurd hblank (by decide)
  have hcut : Text.cut '\t' record.text = (record.table.name.toList, some record.fieldsText) :=
    Text.cut_append ((name_toList record.table).2 '\t' (by simp)) record.fieldsText
  unfold RecordLine.ofLine?
  simp only [htrim, if_neg hfull, hcut, (name_toList record.table).1, Option.getD_some,
    String.ofList_toList, read]

theorem kind?_read (record : WrittenRecord) : record.read.kind? = some (.table record.table) :=
  Kind.ofName?_name (.table record.table)

theorem number?_read (h : record.IsSound) : record.read.number? = some (record.id : Int) := by
  have hwritable : Numeral.IsWritable record.id := h.id_lt
  have hid : record.read.decoded.get? "id" = some (Numeral.decimal record.id) := by
    rw [Fields.get?, pairs_decoded_read h]
    rfl
  rw [RecordLine.number?, hid, Option.bind_some, Numeral.decimal?_decimal hwritable]

/-- The record is of its table, with its id. -/
theorem idIn?_read_eq_some_iff (h : record.IsSound) {table : Table} {id : Int} :
    record.read.idIn? table = some id ↔ record.table = table ∧ (record.id : Int) = id := by
  simp [RecordLine.idIn?, kind?_read, number?_read h]

theorem isUsable_read (h : record.IsSound) : record.read.isUsable = true := by
  simp [RecordLine.isUsable, kind?_read, number?_read h]

end WrittenRecord

/-- A line as it is written: blank, or with a record.  A carriage return may stand before the line
feed. -/
inductive WrittenLine
  | blank (cs : List Char)
  | record (written : WrittenRecord) (carriageReturn : Bool)
  deriving DecidableEq, Repr

namespace WrittenLine

/-- The line is read as it was meant. -/
def IsSound : WrittenLine → Prop
  | blank cs => ∀ c ∈ cs, Text.isBlank c = true ∧ c ≠ '\n'
  | record written _ => written.IsSound

/-- The line as it is written, without its line feed. -/
def body : WrittenLine → List Char
  | blank cs => cs
  | record written carriageReturn => written.text ++ if carriageReturn then ['\r'] else []

/-- The record of the line, if it has one. -/
def record? : WrittenLine → Option WrittenRecord
  | blank _ => none
  | record written _ => some written

/-- The text of lines, each with a line feed. -/
def textOf (lines : List WrittenLine) : String :=
  String.ofList ((lines.map body).flatMap (· ++ ['\n']))

variable {line : WrittenLine} {lines : List WrittenLine}

theorem not_mem_body (h : line.IsSound) : '\n' ∉ line.body := by
  cases line with
  | blank cs => exact fun hmem => (h '\n' hmem).2 rfl
  | record written carriageReturn =>
    rw [body, List.mem_append, not_or]
    refine ⟨WrittenRecord.not_mem_text h (by simp), ?_⟩
    split <;> simp

/-- **A line is read as its record.** -/
theorem ofLine?_body (h : line.IsSound) :
    RecordLine.ofLine? (line.body ++ ['\n']) = line.record?.map WrittenRecord.read := by
  cases line with
  | blank cs =>
    have hblank : ∀ c ∈ cs ++ ['\n'], Text.isBlank c = true := by
      intro c hc
      rcases List.mem_append.1 hc with hc | hc
      · exact (h c hc).1
      · rw [List.mem_singleton.1 hc]
        decide
    have hall : (Text.trimEnd Text.isLineEnd (cs ++ ['\n'])).all Text.isBlank = true :=
      List.all_eq_true.2 fun c hc => hblank c (Text.mem_of_mem_trimEnd hc)
    simp only [RecordLine.ofLine?, body, hall, if_true, record?, Option.map_none]
  | record written carriageReturn =>
    rw [body, List.append_assoc]
    refine WrittenRecord.ofLine?_text h fun c hc => ?_
    rcases List.mem_append.1 hc with hc | hc
    · split at hc
      · rw [List.mem_singleton.1 hc]
        decide
      · exact absurd hc List.not_mem_nil
    · rw [List.mem_singleton.1 hc]
      decide

/-- The lines of the text are the lines that were written. -/
theorem lines_textOf (hsound : ∀ line ∈ lines, line.IsSound) :
    Text.lines (textOf lines).toList = lines.map fun line => line.body ++ ['\n'] := by
  have hbodies : ∀ cs ∈ lines.map body, '\n' ∉ cs := by
    intro cs hcs
    obtain ⟨line, hline, rfl⟩ := List.mem_map.1 hcs
    exact not_mem_body (hsound line hline)
  rw [textOf, String.toList_ofList, Text.lines_flatMap hbodies, List.map_map]
  rfl

/-- The records of the text are the records that were written. -/
theorem recordsOf_textOf (hsound : ∀ line ∈ lines, line.IsSound) :
    RecordLine.recordsOf (textOf lines).toList =
      (lines.filterMap record?).map WrittenRecord.read := by
  rw [RecordLine.recordsOf, lines_textOf hsound, List.filterMap_map, List.map_filterMap]
  exact List.filterMap_congr fun line hline => ofLine?_body (hsound line hline)

/-- A record that was written is sound. -/
theorem isSound_of_mem_filterMap (hsound : ∀ line ∈ lines, line.IsSound) {written : WrittenRecord}
    (hwritten : written ∈ lines.filterMap record?) : written.IsSound := by
  obtain ⟨line, hline, hrecord⟩ := List.mem_filterMap.1 hwritten
  cases line with
  | blank cs => simp [record?] at hrecord
  | record other carriageReturn =>
    obtain rfl : other = written := Option.some.inj hrecord
    exact hsound _ hline

/-- Each record of the text is one that was written. -/
theorem exists_written_of_mem_recordsOf (hsound : ∀ line ∈ lines, line.IsSound)
    {record : RecordLine} (hrecord : record ∈ RecordLine.recordsOf (textOf lines).toList) :
    ∃ written : WrittenRecord, written.IsSound ∧ record = written.read := by
  rw [recordsOf_textOf hsound] at hrecord
  obtain ⟨written, hwritten, rfl⟩ := List.mem_map.1 hrecord
  exact ⟨written, isSound_of_mem_filterMap hsound hwritten, rfl⟩

/-- Ids that are written once are read once. -/
theorem haveDistinctIds_recordsOf (hsound : ∀ line ∈ lines, line.IsSound)
    (hdistinct :
      ((lines.filterMap record?).map fun written => (written.table, written.id)).Nodup) :
    RecordLine.HaveDistinctIds (RecordLine.recordsOf (textOf lines).toList) := by
  rw [recordsOf_textOf hsound, RecordLine.HaveDistinctIds, List.pairwise_map]
  rw [List.Nodup, List.pairwise_map] at hdistinct
  refine hdistinct.imp_of_mem fun {a b} ha hb hne table id haid hbid => hne ?_
  rw [WrittenRecord.idIn?_read_eq_some_iff (isSound_of_mem_filterMap hsound ha)] at haid
  rw [WrittenRecord.idIn?_read_eq_some_iff (isSound_of_mem_filterMap hsound hb)] at hbid
  rw [haid.1, hbid.1, Int.ofNat.inj (haid.2.trans hbid.2.symm)]

/-- **A written text is read back.**  A text of sound lines with distinct ids is accepted.  A look-up
then finds exactly the record that was written with the id: its fields in order, and the number of
its line, blank lines counted; and a table has as many entries as records were written for it. -/
theorem ofText_textOf (hsound : ∀ line ∈ lines, line.IsSound)
    (hdistinct :
      ((lines.filterMap record?).map fun written => (written.table, written.id)).Nodup)
    (file : String) :
    ∃ store, (Store.ofText (textOf lines) file).outcome = .ok store ∧
      (∀ (table : Table) (id : Int) (referrer : Option String) (entry : Entry table),
        store.get table id referrer = .ok entry ↔
          ∃ (n : Nat) (written : WrittenRecord) (carriageReturn : Bool),
            lines[n]? = some (.record written carriageReturn) ∧
            written.table = table ∧ (written.id : Int) = id ∧ entry.id = id ∧
            entry.fields.pairs = ("id", Numeral.decimal written.id) ::
              written.fields.map (fun field => (field.key, field.value)) ∧
            entry.location = some ⟨file, n + 1⟩) ∧
      ∀ table, store.count (.table table) =
        (lines.filterMap record?).countP fun written => written.table = table := by
  have husable : ∀ record ∈ RecordLine.recordsOf (textOf lines).toList,
      record.isUsable = true := by
    intro record hrecord
    obtain ⟨written, hwritten, rfl⟩ := exists_written_of_mem_recordsOf hsound hrecord
    exact WrittenRecord.isUsable_read hwritten
  have hinfo : ∀ record ∈ RecordLine.recordsOf (textOf lines).toList,
      record.kind? ≠ some .info := by
    intro record hrecord
    obtain ⟨written, -, rfl⟩ := exists_written_of_mem_recordsOf hsound hrecord
    rw [WrittenRecord.kind?_read]
    simp
  have hids := haveDistinctIds_recordsOf hsound hdistinct
  obtain ⟨store, haccepted⟩ : ∃ store, (Store.ofText (textOf lines) file).outcome = .ok store :=
    Store.exists_outcome_ofText_iff.2 husable
  refine ⟨store, haccepted, fun table id referrer entry => ?_, fun table => ?_⟩
  swap
  · rw [Store.count_table_ofText haccepted hinfo hids, recordsOf_textOf hsound, List.countP_map]
    refine List.countP_congr fun written _ => ?_
    simp [WrittenRecord.kind?_read]
  rw [Store.get_eq_ok_iff, Store.find?_ofText_eq_some_iff haccepted hinfo hids]
  simp only [lines_textOf hsound, List.getElem?_map, Option.map_eq_some_iff]
  constructor
  · rintro ⟨n, _, record, ⟨line, hline, rfl⟩, hofLine, hid, rfl⟩
    have hlineSound := hsound line (List.mem_of_getElem? hline)
    rw [ofLine?_body hlineSound] at hofLine
    cases line with
    | blank cs => simp [record?] at hofLine
    | record written carriageReturn =>
      obtain rfl : written.read = record := by simpa [record?] using hofLine
      obtain ⟨htable, hnumber⟩ := (WrittenRecord.idIn?_read_eq_some_iff hlineSound).1 hid
      exact ⟨n, written, carriageReturn, hline, htable, hnumber, rfl,
        WrittenRecord.pairs_decoded_read hlineSound, rfl⟩
  · rintro ⟨n, written, carriageReturn, hline, htable, hnumber, hentry, hpairs, hlocation⟩
    have hlineSound : written.IsSound := hsound _ (List.mem_of_getElem? hline)
    have hofLine : RecordLine.ofLine? ((record written carriageReturn).body ++ ['\n']) =
        some written.read := ofLine?_body hlineSound
    have hid := (WrittenRecord.idIn?_read_eq_some_iff hlineSound).2 ⟨htable, hnumber⟩
    refine ⟨n, _, written.read, ⟨_, hline, rfl⟩, hofLine, hid, ?_⟩
    have hfields : entry.fields = written.read.decoded :=
      Fields.eq_of_pairs (hpairs.trans (WrittenRecord.pairs_decoded_read hlineSound).symm)
    rw [← hentry, ← hfields, ← hlocation]

/-- Two segments after a blank line: one with a comma in its quoted name and a carriage return at
its end, the other with a bare field. -/
def twoSegments : List WrittenLine :=
  [.blank [' '], .record ⟨.segment, 7, [⟨"name", "a,b", true⟩]⟩ true,
    .record ⟨.segment, 3, [⟨"start", "8000", false⟩]⟩ false]

theorem isSound_of_mem_twoSegments : ∀ line ∈ twoSegments, line.IsSound := by
  have hdigits : ∀ n limit, n < 10 → 1 ≤ limit → n < Nat.pow 10 limit := fun n limit hn hlimit =>
    Nat.lt_of_lt_of_le hn (Nat.pow_le_pow_right (by decide : 0 < 10) hlimit)
  have hname : WrittenField.IsSound ⟨"name", "a,b", true⟩ :=
    ⟨by simp [Text.isBlank], by simp [Text.isBlank], by simp, by simp, fun _ => rfl⟩
  have hstart : WrittenField.IsSound ⟨"start", "8000", false⟩ :=
    ⟨by simp [Text.isBlank], by simp [Text.isBlank], by simp, by simp, by simp⟩
  have hseven : WrittenRecord.IsSound ⟨.segment, 7, [⟨"name", "a,b", true⟩]⟩ :=
    ⟨hdigits 7 Numeral.digitLimit (by decide) (by decide), by simpa using hname, by decide⟩
  have hthree : WrittenRecord.IsSound ⟨.segment, 3, [⟨"start", "8000", false⟩]⟩ :=
    ⟨hdigits 3 Numeral.digitLimit (by decide) (by decide), by simpa using hstart, by decide⟩
  simp only [twoSegments, List.forall_mem_cons]
  exact ⟨by simp [IsSound, Text.isBlank], hseven, hthree, by simp⟩

/-- Both are found under their ids, with their fields and lines. -/
theorem ofText_textOf_twoSegments :
    (twoSegments.filterMap record?).map (fun written => (written.table, written.id)) =
        [(.segment, 7), (.segment, 3)] ∧
      ∃ store, (Store.ofText (textOf twoSegments) "a").outcome = .ok store ∧
        (∃ entry, store.get .segment 7 none = .ok entry ∧
          entry.fields.pairs = [("id", "7"), ("name", "a,b")] ∧ entry.location = some ⟨"a", 2⟩) ∧
        (∃ entry, store.get .segment 3 none = .ok entry ∧
          entry.fields.pairs = [("id", "3"), ("start", "8000")] ∧
          entry.location = some ⟨"a", 3⟩) ∧
        store.count (.table .segment) = 2 := by
  obtain ⟨store, hread, hget, hcount⟩ :=
    ofText_textOf isSound_of_mem_twoSegments (by decide) "a"
  refine ⟨rfl, store, hread, ?_, ?_, hcount .segment⟩
  · refine ⟨⟨7, ⟨[("id", "7"), ("name", "a,b")], by decide⟩, some ⟨"a", 2⟩⟩, ?_, rfl, rfl⟩
    exact (hget .segment 7 none _).2 ⟨1, _, true, rfl, rfl, rfl, rfl, rfl, rfl⟩
  · refine ⟨⟨3, ⟨[("id", "3"), ("start", "8000")], by decide⟩, some ⟨"a", 3⟩⟩, ?_, rfl, rfl⟩
    exact (hget .segment 3 none _).2 ⟨2, _, false, rfl, rfl, rfl, rfl, rfl, rfl⟩

end WrittenLine

end DebugLabels
