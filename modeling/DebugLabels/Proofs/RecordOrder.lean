import DebugLabels.Proofs.LineNumbers
import DebugLabels.Proofs.Reading
import DebugLabels.Proofs.Text

/-!
# The order of records does not matter

Two texts whose lines are the same in some order hold the same records in some order
(`perm_recordsOf`).  If no id comes twice, no info record empties the tables and there is at most
one version record, then nothing of the order is left in the store but the line numbers: the
look-ups and the version are read off the records without regard to their order
(`map_unnumbered_find?_ofText_eq_some_iff`, `version_ofText`).

The main statement is `listing_ofText_perm`: both texts are accepted, and their listings are the
same or fail alike.
-/

namespace DebugLabels

namespace RecordLine

/-- What ends a line does not matter to its record. -/
theorem ofLine?_trimEnd (line : List Char) :
    ofLine? (Text.trimEnd Text.isLineEnd line) = ofLine? line := by
  unfold ofLine?
  rw [Text.trimEnd_trimEnd]

theorem recordsOf_eq_bareLines (text : List Char) :
    recordsOf text = (Text.bareLines text).filterMap ofLine? := by
  rw [recordsOf, Text.bareLines, List.filterMap_map]
  exact List.filterMap_congr fun line _ => (ofLine?_trimEnd line).symm

/-- Lines in another order hold the records in another order. -/
theorem perm_recordsOf {text text' : List Char}
    (h : (Text.bareLines text).Perm (Text.bareLines text')) :
    (recordsOf text).Perm (recordsOf text') := by
  rw [recordsOf_eq_bareLines, recordsOf_eq_bareLines]
  exact h.filterMap ofLine?

/-- Distinct ids are distinct in any order. -/
theorem HaveDistinctIds.perm {records records' : List RecordLine} (hperm : records.Perm records')
    (h : HaveDistinctIds records) : HaveDistinctIds records' := by
  refine (hperm.pairwise_iff fun {a b} hab table id hb ha => ?_).1 h
  exact hab table id ha hb

end RecordLine

/-- Lists of at most one member are the same in any order. -/
theorem eq_of_perm_of_length_le_one {α : Type} {as bs : List α} (hperm : as.Perm bs)
    (h : as.length ≤ 1) : as = bs := by
  match as, h with
  | [], _ => exact hperm.nil_eq
  | [a], _ => exact (List.perm_singleton.1 hperm.symm).symm

namespace Store

variable {text text' file : String} {store : Store}

/-- The version after a text has been read is that of its last version record. -/
theorem version_ofText (hread : (ofText text file).outcome = .ok store) :
    store.version =
      (((RecordLine.recordsOf text.toList).filter fun record =>
        record.kind? = some .version).getLast?.map RecordLine.decoded).getD .empty := by
  have husable := isUsable_of_mem_calls hread
  obtain ⟨-, rfl⟩ := outcome_ofText_eq_ok_iff.1 hread
  have hcalls : Call.usable ((RecordLine.ofText file text.toList).map LocatedRecord.call) =
      (RecordLine.ofText file text.toList).map LocatedRecord.call := List.filter_eq_self.2 husable
  rw [version_afterAll, hcalls, ← map_toRecordLine_calls file, List.filter_map, List.getLast?_map,
    Option.map_map]
  rfl

/-- **What is found, up to line numbers**, is the entry of the record with the id, wherever it
stands. -/
theorem map_unnumbered_find?_ofText_eq_some_iff {table : Table} {id : Int} {entry : Entry table}
    (hread : (ofText text file).outcome = .ok store)
    (hinfo : ∀ record ∈ RecordLine.recordsOf text.toList, record.kind? ≠ some .info)
    (hdistinct : RecordLine.HaveDistinctIds (RecordLine.recordsOf text.toList)) :
    (store.find? table id).map Entry.unnumbered = some entry ↔
      ∃ record ∈ RecordLine.recordsOf text.toList, record.idIn? table = some id ∧
        entry = ⟨id, record.decoded, some ⟨file, 0⟩⟩ := by
  rw [Option.map_eq_some_iff]
  simp only [find?_ofText_eq_some_iff hread hinfo hdistinct, RecordLine.recordsOf,
    List.mem_filterMap]
  constructor
  · rintro ⟨_, ⟨n, line, record, hline, hofLine, hid, rfl⟩, rfl⟩
    exact ⟨record, ⟨line, List.mem_of_getElem? hline, hofLine⟩, hid, rfl⟩
  · rintro ⟨record, ⟨line, hline, hofLine⟩, hid, rfl⟩
    obtain ⟨n, hn⟩ := List.mem_iff_getElem?.1 hline
    exact ⟨_, ⟨n, line, record, hn, hofLine, hid, rfl⟩, rfl⟩

/-- Texts with the same lines in some order have equally many. -/
theorem length_lines_of_perm (hperm : (Text.bareLines text.toList).Perm
    (Text.bareLines text'.toList)) :
    (Text.lines text'.toList).length = (Text.lines text.toList).length := by
  simpa [Text.bareLines] using hperm.length_eq.symm

/-- **The order of records does not matter.**  Take a text that is accepted, without info records,
with at most one version record, and in which no id comes twice.  Every text with its lines in
another order is accepted too, and whatever the settings, both have the same listing, or both fail
alike but for the line number: with errors that differ in it alone, unless the text has more lines
than a number can say. -/
theorem listing_ofText_perm (hread : (ofText text file).outcome = .ok store)
    (hinfo : ∀ record ∈ RecordLine.recordsOf text.toList, record.kind? ≠ some .info)
    (hversion : ((RecordLine.recordsOf text.toList).countP fun record =>
      record.kind? = some .version) ≤ 1)
    (hdistinct : RecordLine.HaveDistinctIds (RecordLine.recordsOf text.toList))
    (hperm : (Text.bareLines text.toList).Perm (Text.bareLines text'.toList)) :
    ∃ store', (ofText text' file).outcome = .ok store' ∧ ∀ settings : Settings,
      (∃ listing, (store.listing settings).outcome = .ok listing ∧
          (store'.listing settings).outcome = .ok listing) ∨
        ∃ failure failure', (store.listing settings).outcome = .error failure ∧
          (store'.listing settings).outcome = .error failure' ∧
          Failure.SameButLine .ofError failure failure' ∧
          (Numeral.IsWritable (Text.lines text.toList).length →
            Failure.SameButLine .error failure failure') := by
  have hrecords := RecordLine.perm_recordsOf hperm
  have husable := exists_outcome_ofText_iff.1 ⟨store, hread⟩
  obtain ⟨store', hread'⟩ : ∃ store', (ofText text' file).outcome = .ok store' :=
    exists_outcome_ofText_iff.2 fun record h => husable record (hrecords.mem_iff.2 h)
  have hinfo' : ∀ record ∈ RecordLine.recordsOf text'.toList, record.kind? ≠ some .info :=
    fun record h => hinfo record (hrecords.mem_iff.2 h)
  have hsame : store'.version = store.version := by
    rw [List.countP_eq_length_filter] at hversion
    rw [version_ofText hread, version_ofText hread',
      eq_of_perm_of_length_le_one (hrecords.filter _) hversion]
  have hfind : ∀ table id, (store'.find? table id).map Entry.unnumbered =
      (store.find? table id).map Entry.unnumbered := fun table id => by
    refine Option.ext fun entry => ?_
    rw [map_unnumbered_find?_ofText_eq_some_iff hread hinfo hdistinct,
      map_unnumbered_find?_ofText_eq_some_iff hread' hinfo' (hdistinct.perm hrecords)]
    simp only [hrecords.mem_iff]
  refine ⟨store', hread', fun settings => ?_⟩
  have halike := alike_listing_of_unnumbered hsame hfind
    (fun _ _ _ _ _ _ _ h => Entry.isTwin_ofError h) settings
  refine halike.exists_eq_or_exists.imp_right ?_
  rintro ⟨failure, failure', hfails, hfails', h⟩
  refine ⟨failure, failure', hfails, hfails', h, fun hlines => ?_⟩
  have hplaces := hasWritableLines_ofText hread hlines
  have hplaces' := hasWritableLines_ofText hread' (length_lines_of_perm hperm ▸ hlines)
  have herrors := alike_listing_of_unnumbered hsame hfind (fun _ _ _ _ _ hentry htwin heq =>
    Entry.isTwin_error heq (hplaces _ _ _ hentry) (hplaces' _ _ _ htwin)) settings
  rw [hfails, hfails'] at herrors
  exact herrors.of_error

set_option maxRecDepth 2000 in
/-- A PRG-ROM label before its scope, span and segment, and after them. -/
theorem listing_ofText_perm_reversed :
    ∃ store store' listing,
      (ofText ("sym\tid=1,name=a,type=lab,val=8001,scope=0\nscope\tid=0,span=0\n" ++
        "span\tid=0,seg=0\nseg\tid=0,start=8000,ooffs=16\n") "a").outcome = .ok store ∧
      (ofText ("seg\tid=0,start=8000,ooffs=16\nspan\tid=0,seg=0\n" ++
        "scope\tid=0,span=0\nsym\tid=1,name=a,type=lab,val=8001,scope=0\n") "a").outcome =
          .ok store' ∧
      (store.listing {}).outcome = .ok listing ∧ (store'.listing {}).outcome = .ok listing ∧
      listing.lines = ["P:1:a"] := by
  generalize htext : "sym\tid=1,name=a,type=lab,val=8001,scope=0\nscope\tid=0,span=0\n" ++
    "span\tid=0,seg=0\nseg\tid=0,start=8000,ooffs=16\n" = text
  obtain ⟨store, listing, hread, hlisting, hlines⟩ : ∃ store listing,
      (ofText text "a").outcome = .ok store ∧ (store.listing {}).outcome = .ok listing ∧
        listing.lines = ["P:1:a"] := by
    subst htext
    exact ⟨_, _, rfl, rfl, by decide⟩
  have hrecords : RecordLine.recordsOf text.toList =
      [⟨"sym", "id=1,name=a,type=lab,val=8001,scope=0"⟩, ⟨"scope", "id=0,span=0"⟩,
        ⟨"span", "id=0,seg=0"⟩, ⟨"seg", "id=0,start=8000,ooffs=16"⟩] := by
    subst htext
    decide
  have hdistinct : RecordLine.HaveDistinctIds (RecordLine.recordsOf text.toList) := by
    have hkinds : (RecordLine.recordsOf text.toList).Pairwise fun a b => a.kind? ≠ b.kind? := by
      rw [hrecords]
      decide
    refine hkinds.imp fun hne table id h h' => hne ?_
    rw [RecordLine.kind?_of_idIn? h, RecordLine.kind?_of_idIn? h']
  have hperm : (Text.bareLines text.toList).Perm (Text.bareLines
      ("seg\tid=0,start=8000,ooffs=16\nspan\tid=0,seg=0\n" ++
        "scope\tid=0,span=0\nsym\tid=1,name=a,type=lab,val=8001,scope=0\n").toList) := by
    subst htext
    decide
  obtain ⟨store', hread', hlistings⟩ := listing_ofText_perm hread
    (by rw [hrecords]; decide) (by rw [hrecords]; decide) hdistinct hperm
  refine ⟨store, store', listing, hread, hread', hlisting, ?_, hlines⟩
  obtain ⟨_, hsame, hother⟩ | ⟨_, _, hfails, -⟩ := hlistings {}
  · rwa [← Except.ok.inj (hlisting.symm.trans hsame)] at hother
  · rw [hlisting] at hfails
    cases hfails

end Store
end DebugLabels
