import DebugLabels.Proofs.Accounting
import DebugLabels.Proofs.Duplicates
import DebugLabels.Proofs.Failures

/-!
# Numbers that are told

A number has a decimal numeral if it is not too long, and whatever was read in decimal is short
enough. `Notice.numbers` lists the numbers that a notice shows in decimal. What is told of a record
and of a symbol shows numbers that were read in decimal (`isWritable_of_mem_takeIn`,
`isWritable_of_mem_listing`), each by one lemma for each step that tells something.

The other numbers are counts. A store has no more records of a kind than there were calls
(`count_afterAll_le`), and a text has no more records than lines, so the counts that are told when a
text was read to its end are no greater than its number of lines (`shows_readText`).
-/

namespace DebugLabels

/-- A chain of two steps tells what the first tells, and what the second tells on its value. -/
theorem Logged.mem_notices_bind {α β : Type} {first : Logged α} {next : α → Logged β}
    {notice : Notice} (h : notice ∈ (first >>= next).notices) :
    notice ∈ first.notices ∨
      ∃ value, first.outcome = .ok value ∧ notice ∈ (next value).notices := by
  rw [notices_bind, List.mem_append] at h
  rcases h with h | h
  · exact .inl h
  · split at h
    · exact .inr ⟨_, ‹_›, h⟩
    · cases h

/-- The numbers that a notice shows in decimal, apart from those in texts that it is given whole:
the counts in the description of a finished conversion. -/
def Notice.numbers : Notice → List Int
  | versionTooOld major minor => [major, minor]
  | duplicate _ id => [id]
  | read _ summary => summary.map fun pair => (pair.2 : Int)
  | skipped symbol _ => symbol.numbers
  | placed symbol scope span segment place =>
    symbol.numbers ++ scope :: span :: segment :: (place.map Prod.snd).toList
  | valueless _ | version _ | versionUnreadable _ | info _ | reading _ | wrote _
  | converted _ _ => []

/-- The numbers of a notice can be written. -/
def Notice.IsWritable (notice : Notice) : Prop := ∀ n ∈ notice.numbers, Numeral.IsWritable n

theorem Notice.isWritable_of_numbers_eq_nil {notice : Notice} (h : notice.numbers = []) :
    notice.IsWritable := by simp [IsWritable, h]

namespace Store

variable {store : Store} {settings : Settings} {symbol : Symbol} {notice : Notice}

/-! ### Records -/

theorem isWritable_of_mem_versionWarnings {fields : Fields}
    (h : notice ∈ versionWarnings fields) : notice.IsWritable := by
  unfold versionWarnings at h
  split at h
  · rw [List.mem_singleton.1 h]
    exact Notice.isWritable_of_numbers_eq_nil rfl
  · rename_i major minor hnumbers
    simp only [versionNumbers?, Option.bind_eq_bind, Option.bind_eq_some_iff, Option.pure_def,
      Option.some.injEq, Prod.mk.injEq] at hnumbers
    obtain ⟨_, hmajor, _, hminor, rfl, rfl⟩ := hnumbers
    split at h
    · rw [List.mem_singleton.1 h]
      simpa [Notice.IsWritable, Notice.numbers] using
        ⟨Numeral.isWritable_of_decimal? hmajor, Numeral.isWritable_of_decimal? hminor⟩
    · cases h

/-- What is told of a record shows numbers that were read in decimal. -/
theorem isWritable_of_mem_takeIn {call : Call} (h : notice ∈ (store.takeIn call).notices) :
    notice.IsWritable := by
  rw [notices_takeIn, noticesOfCall] at h
  split at h
  · cases h
  · rename_i kind hkind
    rcases List.mem_append.1 h with h | h
    · obtain ⟨key, -, rfl⟩ := List.mem_map.1 h
      exact Notice.isWritable_of_numbers_eq_nil rfl
    · cases kind with
      | version =>
        rcases List.mem_cons.1 h with rfl | h
        · exact Notice.isWritable_of_numbers_eq_nil rfl
        · exact isWritable_of_mem_versionWarnings h
      | info =>
        rw [List.mem_singleton.1 h]
        exact Notice.isWritable_of_numbers_eq_nil rfl
      | table table =>
        rw [noticesOf] at h
        split at h
        · cases h
        · rename_i id hid
          split at h
          · have hidIn : call.idIn? table = some id :=
              (RecordLine.idIn?_of_kind? hkind).trans (RecordLine.entryId_eq_ok_iff.1 hid).1
            rw [List.mem_singleton.1 h]
            simpa [Notice.IsWritable, Notice.numbers] using RecordLine.isWritable_of_idIn? hidIn
          · cases h
      | discarded kind => cases h

end Store

namespace Reading

variable {reading : Reading}

theorem isWritable_of_mem_next (h : ∀ notice ∈ reading.notices.toList, notice.IsWritable)
    (record : LocatedRecord) :
    ∀ notice ∈ (reading.next record).notices.toList, notice.IsWritable := by
  intro notice hnotice
  cases hfailure : reading.failure with
  | some failure =>
    rw [show reading.next record = reading by simp only [next, hfailure]] at hnotice
    exact h notice hnotice
  | none =>
    have hnotices : (reading.next record).notices.toList =
        reading.notices.toList ++ (reading.store.takeIn record.call).notices := by
      simp only [next, hfailure]
      exact Array.toList_appendList
    rw [hnotices, List.mem_append] at hnotice
    rcases hnotice with hnotice | hnotice
    · exact h notice hnotice
    · exact Store.isWritable_of_mem_takeIn hnotice

theorem isWritable_of_mem_readRecords (h : ∀ notice ∈ reading.notices.toList, notice.IsWritable)
    (records : List LocatedRecord) :
    ∀ notice ∈ (readRecords reading records).notices.toList, notice.IsWritable := by
  induction records generalizing reading with
  | nil => exact h
  | cons record records ih => exact ih (isWritable_of_mem_next h record)

end Reading

/-! ### Counts -/

namespace Store

/-- No kind has more records than there are calls. -/
theorem count_afterAll_le (calls : List Call) (kind : Kind) :
    (empty.afterAll calls).count kind ≤ calls.length := by
  have husable : (Call.usable calls).length ≤ calls.length := List.length_filter_le _ _
  cases kind with
  | version => exact Nat.zero_le _
  | info => exact Nat.zero_le _
  | table table =>
    have hsince : (Call.sinceInfo calls).length ≤ (Call.usable calls).length :=
      (List.rtakeWhile_suffix _ _).length_le
    rw [count_table_afterAll]
    have hcard := List.toFinset_card_le
      ((Call.sinceInfo calls).filterMap fun call => call.idIn? table)
    have hids := List.length_filterMap_le (fun call : Call => call.idIn? table)
      (Call.sinceInfo calls)
    omega
  | discarded kind =>
    rw [count_discarded_afterAll]
    have hcount := List.countP_le_length (l := Call.usable calls)
      (p := fun call => call.kind? = some (.discarded kind))
    have hempty : empty.count (.discarded kind) = 0 := rfl
    omega

/-- A count of the summary is that of a kind. -/
theorem exists_count_of_mem_summary {store : Store} (h : (store.summary.map Prod.fst).Nodup)
    {name : String} {n : Nat} (hmem : (name, n) ∈ store.summary) :
    ∃ kind : Kind, n = store.count kind := by
  obtain ⟨kind, rfl⟩ := exists_name_of_mem_summary hmem
  refine ⟨kind, ?_⟩
  have hlookup : store.summary.lookup kind.name = some n := by
    obtain ⟨before, after, hsummary⟩ := List.append_of_mem hmem
    rw [hsummary, List.map_append, List.map_cons, List.nodup_append] at h
    refine List.lookup_eq_some_iff.2 ⟨before, after, hsummary, fun pair hpair => ?_⟩
    have hne := h.2.2 pair.1 (List.mem_map_of_mem hpair) kind.name List.mem_cons_self
    simpa using Ne.symm hne
  rw [← lookup_summary, hlookup]
  rfl

/-- So no count of the summary is greater than the number of calls. -/
theorem le_of_mem_summary {calls : List Call} {name : String} {n : Nat}
    (hmem : (name, n) ∈ (empty.afterAll calls).summary) : n ≤ calls.length := by
  have hnodup := nodup_names_summary (nodup_discarded_afterAll calls)
  obtain ⟨kind, rfl⟩ := exists_count_of_mem_summary hnodup hmem
  exact count_afterAll_le calls kind

end Store

namespace Reading

/-- A text has no more records than lines. -/
theorem length_ofText_le (file : String) (text : List Char) :
    (RecordLine.ofText file text).length ≤ (Text.lines text).length := by
  have hle := List.length_filterMap_le
    (fun pair : List Char × Nat => (RecordLine.ofLine? pair.1).map fun record =>
      ({ record with location := ⟨file, pair.2⟩ } : LocatedRecord)) ((Text.lines text).zipIdx 1)
  rwa [List.length_zipIdx] at hle

/-- Reading a text leaves the store of a sequence of calls, no more of them than the text has
lines. -/
theorem exists_store_readText (file : String) (text : List Char) :
    ∃ calls : List Call, (readText .empty file text).store = Store.empty.afterAll calls ∧
      calls.length ≤ (Text.lines text).length := by
  have hstore : (readText .empty file text).store =
      (readRecords (start .empty) (RecordLine.ofText file text)).store := by
    unfold readText
    dsimp only
    split <;> rfl
  refine ⟨_, hstore.trans (store_readRecords rfl _), ?_⟩
  rw [List.length_map]
  exact (List.takeWhile_prefix _).length_le.trans (length_ofText_le file text)

/-- What is told of a text shows numbers that were read in decimal, and counts. -/
theorem shows_readText (file : String) (text : List Char) :
    ∀ notice ∈ (readText .empty file text).result.notices, ∀ n ∈ notice.numbers,
      Numeral.IsWritable n ∨ n.natAbs ≤ (Text.lines text).length := by
  have hstart : ∀ notice ∈ (start .empty).notices.toList, notice.IsWritable := by simp [start]
  have hrecords := isWritable_of_mem_readRecords hstart (RecordLine.ofText file text)
  obtain ⟨calls, hstore, hlength⟩ := exists_store_readText file text
  intro notice hnotice n hn
  unfold result at hnotice
  unfold readText at hnotice hstore
  dsimp only at hnotice hstore
  split at hnotice
  · exact .inl (hrecords notice hnotice n hn)
  · rename_i hend
    rw [hend] at hstore
    rw [Array.toList_push, List.mem_append, List.mem_singleton] at hnotice
    rcases hnotice with hnotice | rfl
    · exact .inl (hrecords notice hnotice n hn)
    · -- the text was read to its end, and the counts are told
      obtain ⟨⟨name, count⟩, hpair, rfl⟩ := List.mem_map.1 hn
      dsimp only at hstore
      rw [hstore] at hpair
      exact .inr ((Store.le_of_mem_summary hpair).trans hlength)

end Reading

/-! ### Symbols -/

namespace Store

variable {store : Store} {settings : Settings} {symbol : Symbol} {notice : Notice}

/-- The links of a symbol were read in decimal. -/
theorem isWritable_of_follow (hid : Numeral.IsWritable symbol.id) {chain : Chain}
    (h : store.follow symbol = .ok chain) :
    (Notice.placed (Symbol.mention symbol) chain.scopeId chain.spanId chain.segmentId
      chain.place).IsWritable := by
  simp only [follow, bind_eq_ok_iff, scopeIdOf_eq_ok_iff, Scope.lowestSpanId_eq_ok_iff,
    Span.segmentId, Entry.number_eq_ok_iff_reads, pure_eq_ok_iff] at h
  obtain ⟨scopeId, hscopeId, _, -, spanId, hspanId, _, -, segmentId, hsegmentId, segment, -, place,
    hplace, rfl⟩ := h
  have hoffset : ∀ offset ∈ (place.map Prod.snd).toList, Numeral.IsWritable offset := by
    intro offset hmem
    obtain ⟨⟨start, _⟩, rfl, rfl⟩ := Option.map_eq_some_iff.1 (Option.mem_toList.1 hmem)
    exact Entry.isWritable_of_reads (placeOf_eq_ok_some_iff.1 hplace).2
  simp only [Notice.IsWritable, Notice.numbers, List.forall_mem_append, List.forall_mem_cons]
  exact ⟨Symbol.isWritable_mention hid, isWritable_of_hasScope hscopeId,
    Scope.isWritable_of_hasLeastSpan hspanId, Entry.isWritable_of_reads hsegmentId, hoffset⟩

theorem isWritable_of_mem_place (hid : Numeral.IsWritable symbol.id)
    (h : notice ∈ (store.place symbol).notices) : notice.IsWritable := by
  unfold place at h
  cases hfollow : store.follow symbol with
  | error failure =>
    rw [hfollow] at h
    cases h
  | ok chain =>
    rw [hfollow] at h
    rw [List.mem_singleton.1 h]
    exact isWritable_of_follow hid hfollow

theorem isWritable_of_mem_listedValue (hid : Numeral.IsWritable symbol.id) {address : Int}
    (h : notice ∈ (store.listedValue settings symbol address).notices) : notice.IsWritable := by
  unfold listedValue at h
  split at h
  · rcases Logged.mem_notices_bind h with h | ⟨placement, -, h⟩
    · exact isWritable_of_mem_place hid h
    · cases h
  · cases h

/-- What is told of a symbol shows its id, and numbers that were read in decimal. -/
theorem isWritable_of_mem_label (hid : Numeral.IsWritable symbol.id)
    (h : notice ∈ (store.label settings symbol).notices) : notice.IsWritable := by
  unfold label at h
  split at h
  · rcases Logged.mem_notices_bind h with h | ⟨address, -, h⟩
    · cases h
    · rcases Logged.mem_notices_bind h with h | ⟨value, -, h⟩
      · exact isWritable_of_mem_listedValue hid h
      · rcases Logged.mem_notices_bind h with h | ⟨last, -, h⟩ <;> cases h
  · rw [List.mem_singleton.1 h]
    exact Symbol.isWritable_mention hid

theorem isWritable_of_mem_labelsOf {symbols : List Symbol}
    (hids : ∀ symbol ∈ symbols, Numeral.IsWritable symbol.id)
    (h : notice ∈ (store.labelsOf settings symbols).notices) : notice.IsWritable := by
  induction symbols with
  | nil => cases h
  | cons symbol symbols ih =>
    obtain ⟨hid, hrest⟩ := List.forall_mem_cons.1 hids
    rw [labelsOf_cons] at h
    rcases Logged.mem_notices_bind h with h | ⟨label, -, h⟩
    · exact isWritable_of_mem_label hid h
    · rcases Logged.mem_notices_bind h with h | ⟨labels, -, h⟩
      · exact ih hrest h
      · cases h

/-- **What is told of a listing shows numbers that were read in decimal**, if the ids of the store
were. -/
theorem isWritable_of_mem_listing (hstore : store.HasWritableIds)
    (h : notice ∈ (store.listing settings).notices) : notice.IsWritable := by
  rcases Logged.mem_notices_bind h with h | ⟨labels, -, h⟩
  · exact isWritable_of_mem_labelsOf (fun _ => hstore.symbols) h
  · cases h

/-- No listing counts more than the symbols that are stored. -/
theorem count_listing_le {listing : Listing} (h : (store.listing settings).outcome = .ok listing) :
    listing.symbolsRead = store.count (.table .symbol) ∧
      listing.lines.length ≤ store.count (.table .symbol) ∧
      ∀ region, listing.count region ≤ store.count (.table .symbol) := by
  have hlabels : listing.labels.length ≤ store.count (.table .symbol) := by
    rw [length_labels h, count_symbol]
    exact List.length_filter_le _ _
  refine ⟨(outcome_listing_eq_ok_iff.1 h).2.1, ?_, fun region => ?_⟩
  · rwa [listing.length_lines]
  · have hcount : listing.count region ≤ listing.labels.length := List.countP_le_length
    omega

end Store
end DebugLabels
