import DebugLabels.Proofs.FileConversion
import DebugLabels.Proofs.LineFormat
import DebugLabels.Proofs.RecordOrder

/-!
# The lines of a label file

A label file is the lines of a listing, each with a line feed after it.  It splits back into them
because none of them holds a line feed of its own (`splitOn_fileText`).  That is followed from the
text that was read: a character that is in no record is in no field of the store (`Store.Lacks`,
`lacks_ofText`), and all else in a label's line is tag, number and punctuation
(`HasLine.not_mem`).

Records come from lines without what ends them, so they never hold a line feed; they hold a carriage
return only if the text does, and a text that was read from a file does not.  The main statement is
`splitsBack_of_listing`.
-/

namespace DebugLabels

/-! ### What is kept of a record -/

namespace Fields

/-- No value of the fields holds the character. -/
def Lacks (fields : Fields) (c : Char) : Prop :=
  ∀ key value, fields.get? key = some value → c ∉ value.toList

variable {fields : Fields} {c : Char}

theorem Lacks.insert {key value : String} (h : fields.Lacks c) (hvalue : c ∉ value.toList) :
    (fields.insert key value).Lacks c := by
  intro other held hheld
  rw [get?_insert] at hheld
  split at hheld
  · exact Option.some.inj hheld ▸ hvalue
  · exact h other held hheld

/-- A value holds nothing that is not written. -/
theorem not_mem_readPair {cs : List Char} (h : c ∉ cs) :
    c ∉ ((readPair cs).2.getD "").toList := by
  unfold readPair
  have hjoin := Text.cut_join '=' cs
  cases hcut : (Text.cut '=' cs).2 with
  | none => simp [hcut]
  | some tail =>
    have htail : c ∉ tail := fun hc => h (by rw [← hjoin, hcut]; simp [hc])
    simp only [hcut, Option.map_some, Option.getD_some, String.toList_ofList]
    exact fun hc => htail (List.mem_of_mem_filter hc)

/-- **Decoded fields hold nothing that the text does not hold.** -/
theorem lacks_decode {text : String} (h : c ∉ text.toList) : (decode text).Lacks c := by
  have hpairs : ∀ pair ∈ readPairs text, c ∉ (pair.2.getD "").toList := by
    intro pair hpair
    obtain ⟨piece, hpiece, rfl⟩ := List.mem_map.1 hpair
    refine not_mem_readPair fun hc => h ?_
    rw [← Text.splitUnquoted_join text.toList]
    exact Text.mem_intercalate_of_mem (List.mem_of_mem_filter hpiece) hc
  have hempty : empty.Lacks c := fun key value hvalue => by simp at hvalue
  exact List.foldlRecOn (motive := fun fields => fields.Lacks c) _ insertPair hempty
    fun fields hfields pair hpair => hfields.insert (hpairs pair hpair)

end Fields

namespace RecordLine

variable {text : List Char} {record : RecordLine}

/-- The fields of a record are a part of its line, without what ends it. -/
theorem mem_of_mem_fields {line : List Char} {c : Char} (h : ofLine? line = some record)
    (hc : c ∈ record.fields.toList) : c ∈ line := by
  unfold ofLine? at h
  dsimp only at h
  split at h
  · exact absurd h.symm (Option.some_ne_none record)
  · obtain rfl := Option.some.inj h
    rw [String.toList_ofList] at hc
    refine Text.mem_of_mem_trimEnd (p := Text.isLineEnd) ?_
    rw [← Text.cut_join '\t' (Text.trimEnd Text.isLineEnd line)]
    cases hcut : (Text.cut '\t' (Text.trimEnd Text.isLineEnd line)).2 with
    | none => simp [hcut] at hc
    | some tail =>
      rw [hcut, Option.getD_some] at hc
      simp [hc]

theorem exists_bareLine_of_mem_recordsOf (h : record ∈ recordsOf text) :
    ∃ line ∈ Text.bareLines text, ofLine? line = some record := by
  rw [recordsOf_eq_bareLines] at h
  exact List.mem_filterMap.1 h

/-- **No record of a text holds a line feed.** -/
theorem lineFeed_not_mem_fields (h : record ∈ recordsOf text) : '\n' ∉ record.fields.toList := by
  obtain ⟨line, hline, hread⟩ := exists_bareLine_of_mem_recordsOf h
  exact fun hc => Text.not_mem_of_mem_bareLines hline (mem_of_mem_fields hread hc)

/-- A record holds nothing that the text does not hold. -/
theorem not_mem_fields {c : Char} (h : record ∈ recordsOf text) (hc : c ∉ text) :
    c ∉ record.fields.toList := by
  obtain ⟨line, hline, hread⟩ := exists_bareLine_of_mem_recordsOf h
  exact fun hmem => hc (Text.mem_of_mem_bareLines hline (mem_of_mem_fields hread hmem))

end RecordLine

namespace Store

variable {store : Store} {settings : Settings} {symbol : Symbol} {listing : Listing} {c : Char}

/-- No field of an entry of the store holds the character. -/
def Lacks (store : Store) (c : Char) : Prop :=
  ∀ table id (entry : Entry table), store.find? table id = some entry → entry.fields.Lacks c

/-- A record without the character brings it into no store. -/
theorem Lacks.after (h : store.Lacks c) {call : Call} (hcall : c ∉ call.fields.toList) :
    (store.after call).Lacks c := by
  cases husable : call.isUsable with
  | false => rwa [after_of_not_isUsable store husable]
  | true =>
    intro table id entry hentry
    rw [find?_after store husable] at hentry
    split at hentry
    · exact absurd hentry.symm (Option.some_ne_none entry)
    · split at hentry
      · exact Option.some.inj hentry ▸ Fields.lacks_decode hcall
      · exact h table id entry hentry

/-- **Records without the character leave a store without it.** -/
theorem lacks_afterAll {calls : List Call} (h : ∀ call ∈ calls, c ∉ call.fields.toList) :
    (empty.afterAll calls).Lacks c := by
  have hempty : empty.Lacks c := fun table id entry hentry => by simp at hentry
  exact List.foldlRecOn (motive := fun store => store.Lacks c) calls Store.after hempty
    fun store hstore call hcall => hstore.after (h call hcall)

theorem lacks_ofText {text file : String} (hread : (ofText text file).outcome = .ok store)
    (h : ∀ record ∈ RecordLine.recordsOf text.toList, c ∉ record.fields.toList) :
    store.Lacks c := by
  obtain ⟨-, rfl⟩ := outcome_ofText_eq_ok_iff.1 hread
  refine lacks_afterAll fun call hcall => h call.toRecordLine ?_
  rw [← map_toRecordLine_calls file]
  exact List.mem_map_of_mem hcall

/-! ### Lines without line ends -/

theorem not_mem_of_isBlank {text : String} (hc : Text.isBlank c = true)
    (htext : text.toList.any Text.isBlank = false) : c ∉ text.toList :=
  fun hmem => List.any_eq_false.1 htext c hmem hc

theorem not_mem_hex (hc : Text.isBlank c = true) (n : Int) : c ∉ (Numeral.hex n).toList := by
  intro hmem
  rw [Numeral.hex, String.toList_ofList] at hmem
  rw [Numeral.isBlank_of_mem_write hmem] at hc
  cases hc

theorem not_mem_tagAt (hc : Text.isBlank c = true) (ram : ExpansionRam) (address : Int) :
    c ∉ (tagAt ram address).toList := by
  have htags : ∀ tag ∈ Label.tags ram, tag.toList.any Text.isBlank = false := by
    cases ram <;> decide
  exact not_mem_of_isBlank hc (htags _ (tagAt_mem_tags ram address))

/-- What is not the symbol's own in its line is no blank. -/
theorem HasLine.not_mem {line : String} (h : store.HasLine settings symbol line)
    (hc : Text.isBlank c = true) (hsymbol : symbol.fields.Lacks c) : c ∉ line.toList := by
  obtain ⟨address, value, last, -, -, -, rfl⟩ := h
  have hcolon : c ∉ ":".toList := not_mem_of_isBlank hc (by decide)
  have htag := not_mem_tagAt hc settings.ram address
  have hvalue := not_mem_hex hc value
  simp only [String.toList_append, List.mem_append, not_or]
  refine ⟨⟨⟨⟨⟨⟨htag, hcolon⟩, hvalue⟩, ?last⟩, hcolon⟩, ?name⟩, ?comment⟩
  case last =>
    cases last with
    | none => simp
    | some last =>
      rw [String.toList_append, List.mem_append, not_or]
      exact ⟨not_mem_of_isBlank hc (by decide), not_mem_hex hc last⟩
  case name =>
    cases hget : symbol.get? "name" with
    | none => simp
    | some name => exact hsymbol "name" name hget
  case comment =>
    cases hget : symbol.get? "comment" with
    | none => simp
    | some comment =>
      rw [String.toList_append, List.mem_append, not_or]
      exact ⟨hcolon, hsymbol "comment" comment hget⟩

/-- **A blank that is not in the store is not in a line of its listing.** -/
theorem not_mem_of_mem_lines (hstore : store.Lacks c) (hc : Text.isBlank c = true)
    (h : (store.listing settings).outcome = .ok listing) :
    ∀ line ∈ listing.lines, c ∉ line.toList := by
  have hlabels := outcome_labelsOf_eq_ok_iff.1 (outcome_listing_eq_ok_iff.1 h).1
  have hlines : List.Forall₂ (fun symbol line => symbol.fields.Lacks c → c ∉ line.toList)
      (store.symbols.filter Symbol.isLabel) listing.lines := by
    rw [Listing.lines, List.forall₂_map_right_iff]
    exact hlabels.imp fun symbol label hlabel => (hasLine_of_label hlabel).not_mem hc
  intro line hline
  obtain ⟨n, hn, rfl⟩ := List.mem_iff_getElem.1 hline
  have hlt : n < (store.symbols.filter Symbol.isLabel).length := hlines.length_eq ▸ hn
  refine hlines.get hlt hn ?_
  obtain ⟨id, hid⟩ := mem_symbols.1 (List.mem_of_mem_filter (List.getElem_mem hlt))
  exact hstore .symbol id _ hid

end Store

/-! ### The file -/

namespace Listing

theorem toList_fileText (lines : List String) :
    (fileText lines).toList = lines.flatMap fun line => line.toList ++ ['\n'] := by
  rw [fileText, String.toList_join, List.flatMap_map]
  exact List.flatMap_congr fun line _ => String.toList_append

/-- **Lines without line feeds are the pieces of their file**, and an empty piece comes after
them. -/
theorem splitOn_fileText {lines : List String} (h : ∀ line ∈ lines, '\n' ∉ line.toList) :
    Text.splitOn '\n' (fileText lines).toList = lines.map String.toList ++ [[]] := by
  rw [toList_fileText]
  induction lines with
  | nil => rfl
  | cons line lines ih =>
    rw [List.forall_mem_cons] at h
    rw [List.flatMap_cons, List.append_assoc, List.singleton_append, Text.splitOn_append h.1,
      ih h.2]
    rfl

/-- They are as many as the line feeds. -/
theorem count_fileText {lines : List String} (h : ∀ line ∈ lines, '\n' ∉ line.toList) :
    (fileText lines).toList.count '\n' = lines.length := by
  rw [toList_fileText]
  induction lines with
  | nil => rfl
  | cons line lines ih =>
    rw [List.forall_mem_cons] at h
    rw [List.flatMap_cons, List.count_append, List.count_append, List.count_eq_zero.2 h.1, ih h.2,
      List.length_cons]
    simp [Nat.add_comm]

/-- The label file of a listing splits back into its lines. -/
structure SplitsBack (listing : Listing) : Prop where
  lineFeed_not_mem : ∀ line ∈ listing.lines, '\n' ∉ line.toList
  pieces : (Text.splitOn '\n' (fileText listing.lines).toList).map String.ofList =
    listing.lines ++ [""]
  lineFeeds : (fileText listing.lines).toList.count '\n' = listing.lines.length

theorem splitsBack_of_lineFeed_not_mem {listing : Listing}
    (h : ∀ line ∈ listing.lines, '\n' ∉ line.toList) : listing.SplitsBack where
  lineFeed_not_mem := h
  pieces := by
    rw [splitOn_fileText h, List.map_append, List.map_map]
    have hid : String.ofList ∘ String.toList = id := funext fun line => String.ofList_toList
    rw [hid, List.map_id]
    rfl
  lineFeeds := count_fileText h

/-- **A label file splits back into its lines**, whatever text or file it was made from and whatever
the settings: no line holds a line feed.  A line of a file that was read from disk holds no carriage
return either. -/
theorem splitsBack_of_listing :
    (∀ text file settings listing,
      (Store.listingOfText text file settings).outcome = .ok listing → listing.SplitsBack) ∧
    ∀ (files : Files) (path : Path) (settings : Settings) (store : Store) (listing : Listing),
      ((readDebugFile Files.disk path).run files).1.outcome = .ok store →
      (store.listing settings).outcome = .ok listing →
      listing.SplitsBack ∧ ∀ line ∈ listing.lines, '\r' ∉ line.toList := by
  have hfeeds : ∀ {text file : String} {store : Store} {settings : Settings} {listing : Listing},
      (Store.ofText text file).outcome = .ok store →
      (store.listing settings).outcome = .ok listing → listing.SplitsBack := by
    intro text file store settings listing hread hlisting
    have hlacks : store.Lacks '\n' :=
      Store.lacks_ofText hread fun record => RecordLine.lineFeed_not_mem_fields
    exact splitsBack_of_lineFeed_not_mem
      (Store.not_mem_of_mem_lines hlacks (by decide) hlisting)
  constructor
  · intro text file settings listing h
    obtain ⟨store, hread, hlisting⟩ := Logged.outcome_bind_eq_ok_iff.1 h
    exact hfeeds hread hlisting
  · intro files path settings store listing hfile hlisting
    have hread : (storeOfFile path (files.read path)).outcome = .ok store := hfile
    rw [Files.outcome_storeOfFile] at hread
    cases hcontent : files.read path with
    | error reason => simp [hcontent] at hread
    | ok content =>
      rw [hcontent] at hread
      have hreturn : '\r' ∉ (String.ofList (debugFileText content)).toList := by
        rw [String.toList_ofList, debugFileText]
        exact Text.not_mem_unifyLineEnds _
      have hlacks : store.Lacks '\r' := Store.lacks_ofText hread fun record hrecord =>
        RecordLine.not_mem_fields hrecord hreturn
      exact ⟨hfeeds hread hlisting, Store.not_mem_of_mem_lines hlacks (by decide) hlisting⟩

set_option maxRecDepth 3000 in
/-- A name keeps a carriage return of a text in memory and loses one at the end of a line on
disk. -/
theorem splitsBack_of_listing_return :
    (∃ listing, (Store.listingOfText "sym\tid=0,name=a\rb,type=lab,val=10\n" "a" {}).outcome =
        .ok listing ∧ listing.lines = ["R:10:a\rb"] ∧ listing.SplitsBack) ∧
      ∃ (files : Files) (store : Store) (listing : Listing),
        files.read ⟨"", ["a"]⟩ = .ok "sym\tid=0,type=lab,val=10,name=a\r".toUTF8 ∧
        ((readDebugFile Files.disk ⟨"", ["a"]⟩).run files).1.outcome = .ok store ∧
        (store.listing {}).outcome = .ok listing ∧ listing.lines = ["R:10:a"] ∧
        listing.SplitsBack ∧ ∀ line ∈ listing.lines, '\r' ∉ line.toList := by
  obtain ⟨hmemory, hdisk⟩ := splitsBack_of_listing
  constructor
  · obtain ⟨listing, hlisting, hlines⟩ : ∃ listing,
        (Store.listingOfText "sym\tid=0,name=a\rb,type=lab,val=10\n" "a" {}).outcome =
          .ok listing ∧ listing.lines = ["R:10:a\rb"] := ⟨_, rfl, rfl⟩
    exact ⟨listing, hlisting, hlines, hmemory _ _ _ _ hlisting⟩
  · let files := Files.empty.put ["a"] (.file "sym\tid=0,type=lab,val=10,name=a\r".toUTF8)
    have hcontent : files.read ⟨"", ["a"]⟩ = .ok "sym\tid=0,type=lab,val=10,name=a\r".toUTF8 := rfl
    have hfile : ((readDebugFile Files.disk ⟨"", ["a"]⟩).run files).1.outcome =
        (Store.ofText "sym\tid=0,type=lab,val=10,name=a\n" "a").outcome := by
      have hrun : ((readDebugFile Files.disk ⟨"", ["a"]⟩).run files).1 =
          storeOfFile ⟨"", ["a"]⟩ (files.read ⟨"", ["a"]⟩) := rfl
      have htext : String.ofList (Text.unifyLineEnds "sym\tid=0,type=lab,val=10,name=a\r".toList) =
          "sym\tid=0,type=lab,val=10,name=a\n" := by decide
      rw [hrun, hcontent, Files.outcome_storeOfFile]
      dsimp only
      rw [debugFileText, Text.ofUtf8_toUTF8, htext]
      rfl
    obtain ⟨store, listing, hread, hlisting, hlines⟩ : ∃ store listing,
        (Store.ofText "sym\tid=0,type=lab,val=10,name=a\n" "a").outcome = .ok store ∧
        (store.listing {}).outcome = .ok listing ∧ listing.lines = ["R:10:a"] :=
      ⟨_, _, rfl, rfl, rfl⟩
    exact ⟨files, store, listing, hcontent, hfile.trans hread, hlisting, hlines,
      hdisk files _ {} store listing (hfile.trans hread) hlisting⟩

end Listing
end DebugLabels
