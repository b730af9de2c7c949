import DebugLabels.Proofs.Listed

/-!
# Further records leave the labels of a store where they are

A store is handed further records, none of which is an info record or has an id that is taken.  All
that was found before is found afterwards (`Store.IsKeptIn`), and a label needs no more than what is
found, so it stays what it is (`IsKeptIn.outcome_label`).  New symbols come in between the old ones
by their ids; the old ones keep their order (`symbols_eq_filter`).

The main statement is `listing_afterAll_grows`: the old labels are those of the new listing that
belong to an old symbol, and there is one more for each id under which the further records leave a
label symbol (`Call.labelIds`).  Without such records the listing has the same labels as before.
-/

namespace DebugLabels

/-- The record is that of a symbol of type `lab`. -/
def RecordLine.isLabel (record : RecordLine) : Bool :=
  record.kind? = some (.table .symbol) ∧ record.decoded.get? "type" = some "lab"

namespace Call

/-- The ids under which a sequence of records leaves label symbols.  Of the records with one id the
last one counts. -/
def labelIds (calls : List Call) : Finset Int :=
  (calls.filterMap fun call => call.idIn? .symbol).toFinset.filter fun id =>
    (lastIn .symbol id calls).any fun call => call.isLabel

theorem mem_labelIds {calls : List Call} {id : Int} :
    id ∈ labelIds calls ↔
      ∃ call, lastIn .symbol id calls = some call ∧ call.isLabel = true := by
  rw [labelIds, Finset.mem_filter, List.mem_toFinset, List.mem_filterMap, ← isSome_lastIn_iff,
    Option.any_eq_true]
  constructor
  · exact And.right
  · rintro ⟨call, hlast, hlabel⟩
    exact ⟨Option.isSome_of_eq_some hlast, call, hlast, hlabel⟩

/-- If no id comes twice, there are as many ids as records of label symbols. -/
theorem card_labelIds {calls : List Call} (husable : ∀ call ∈ calls, call.isUsable = true)
    (hdistinct : RecordLine.HaveDistinctIds (calls.map Call.toRecordLine)) :
    (labelIds calls).card = calls.countP fun call => call.isLabel := by
  have hids : labelIds calls =
      ((calls.filter fun call => call.isLabel).filterMap fun call =>
        call.idIn? .symbol).toFinset := by
    ext id
    simp only [mem_labelIds, lastIn_eq_some_iff hdistinct, List.mem_toFinset, List.mem_filterMap,
      List.mem_filter]
    exact exists_congr fun call => and_right_comm
  have hnodup : ((calls.filter fun call => call.isLabel).filterMap fun call =>
      call.idIn? .symbol).Nodup := by
    rw [RecordLine.HaveDistinctIds, List.pairwise_map] at hdistinct
    refine List.Pairwise.filterMap _ (fun a b hab id ha id' hb heq => ?_) (hdistinct.filter _)
    subst heq
    exact hab .symbol id ha hb
  rw [hids, List.toFinset_card_of_nodup hnodup, List.length_filterMap_eq_countP, List.countP_filter]
  refine List.countP_congr fun call hcall => ?_
  rw [Bool.and_eq_true, and_iff_right_iff_imp]
  intro hlabel
  have hkind : call.kind? = some (.table .symbol) := (of_decide_eq_true hlabel).1
  obtain ⟨id, hid⟩ := RecordLine.exists_idIn? (husable call hcall) hkind
  exact Option.isSome_of_eq_some hid

end Call

/-- The label is that of a symbol of the store. -/
def Label.isOf (store : Store) (label : Label) : Bool :=
  label.symbolId.any fun id => (store.find? .symbol id).isSome

namespace Store

open Call

variable {store later : Store} {settings : Settings} {symbol : Symbol}

/-! ### Entries and labels that are kept -/

/-- All that is found in a store is found in a later one. -/
def IsKeptIn (store later : Store) : Prop :=
  ∀ table id (entry : Entry table), store.find? table id = some entry →
    later.find? table id = some entry

/-- Every entry is found under its own id. -/
def HasOwnIds (store : Store) : Prop :=
  ∀ table id (entry : Entry table), store.find? table id = some entry → entry.id = id

theorem hasOwnIds_afterAll (calls : List Call) : (empty.afterAll calls).HasOwnIds :=
  fun _ _ _ => id_of_find?_afterAll

namespace IsKeptIn

theorem hasScope (h : store.IsKeptIn later) {scopeId : Int} (hscope : store.HasScope symbol scopeId) :
    later.HasScope symbol scopeId := by
  rcases hscope with hown | ⟨hnone, parentId, hparentId, parent, hparent, hscope⟩
  · exact Or.inl hown
  · exact Or.inr ⟨hnone, parentId, hparentId, parent, h _ _ _ hparent, hscope⟩

theorem liesIn (h : store.IsKeptIn later) {segmentId : Int} {segment : Segment}
    (hlies : store.LiesIn symbol segmentId segment) : later.LiesIn symbol segmentId segment := by
  obtain ⟨scopeId, hscopeId, scope, hscope, spanId, hspanId, span, hspan, hread, hsegment⟩ := hlies
  exact ⟨scopeId, h.hasScope hscopeId, scope, h _ _ _ hscope, spanId, hspanId, span,
    h _ _ _ hspan, hread, h _ _ _ hsegment⟩

theorem isListedUnder (h : store.IsKeptIn later) {address value : Int}
    (hvalue : store.IsListedUnder settings symbol address value) :
    later.IsListedUnder settings symbol address value := by
  unfold IsListedUnder at hvalue ⊢
  split
  · rename_i hrom
    rw [if_pos hrom] at hvalue
    obtain ⟨segmentId, segment, start, offset, hlies, hplaced, hvalue, hnonneg⟩ := hvalue
    exact ⟨segmentId, segment, start, offset, h.liesIn hlies, hplaced, hvalue, hnonneg⟩
  · rename_i hram
    rwa [if_neg hram] at hvalue

/-- **A label stays what it is.** -/
theorem outcome_label (h : store.IsKeptIn later) {label : Label}
    (hlabel : (store.label settings symbol).outcome = .ok (some label)) :
    (later.label settings symbol).outcome = .ok (some label) := by
  rw [outcome_label_eq_ok_some_iff] at hlabel ⊢
  obtain ⟨htype, address, value, last, haddress, hvalue, hlast, rfl⟩ := hlabel
  exact ⟨htype, address, value, last, haddress, h.isListedUnder hvalue, hlast, rfl⟩

/-- The old symbols are those of the later ones whose id was found before, in their order. -/
theorem symbols_eq_filter (h : store.IsKeptIn later) (hstore : store.HasOwnIds)
    (hlater : later.HasOwnIds) :
    store.symbols = later.symbols.filter fun symbol => (store.find? .symbol symbol.id).isSome := by
  refine eq_of_pairwise_id (pairwise_symbols (hstore .symbol))
    ((pairwise_symbols (hlater .symbol)).filter _) fun symbol => ?_
  rw [List.mem_filter, mem_symbols, mem_symbols]
  constructor
  · rintro ⟨id, hid⟩
    rw [hstore _ _ _ hid]
    exact ⟨⟨id, h _ _ _ hid⟩, Option.isSome_of_eq_some hid⟩
  · rintro ⟨⟨id, hid⟩, hfound⟩
    rw [hlater _ _ _ hid] at hfound
    obtain ⟨found, hfound⟩ := Option.isSome_iff_exists.1 hfound
    obtain rfl : found = symbol := Option.some.inj ((h _ _ _ hfound).symm.trans hid)
    exact ⟨id, hfound⟩

/-- The same of the symbols that are labels. -/
theorem filter_isLabel (h : store.IsKeptIn later) (hstore : store.HasOwnIds)
    (hlater : later.HasOwnIds) :
    ((later.symbols.filter Symbol.isLabel).filter fun symbol =>
      (store.find? .symbol symbol.id).isSome) = store.symbols.filter Symbol.isLabel := by
  rw [List.filter_comm, ← h.symbols_eq_filter hstore hlater]

/-- **The old labels are the labels of old symbols**, in their order. -/
theorem filter_labels (h : store.IsKeptIn later) (hstore : store.HasOwnIds)
    (hlater : later.HasOwnIds) {labels labels' : List Label}
    (hlabels : (store.labelsOf settings store.symbols).outcome = .ok labels)
    (hlabels' : (later.labelsOf settings later.symbols).outcome = .ok labels') :
    labels'.filter (Label.isOf store) = labels := by
  rw [outcome_labelsOf_eq_ok_iff] at hlabels hlabels'
  have hkept : List.Forall₂
      (fun symbol label => (later.label settings symbol).outcome = .ok (some label))
      (store.symbols.filter Symbol.isLabel) (labels'.filter (Label.isOf store)) := by
    rw [← h.filter_isLabel hstore hlater]
    refine List.rel_filter (fun symbol label hlabel => ?_) hlabels'
    obtain ⟨-, address, value, last, -, -, -, rfl⟩ := outcome_label_eq_ok_some_iff.1 hlabel
    exact Iff.rfl
  refine List.right_unique_forall₂' (fun symbol label label' hlabel hlabel' => ?_) hkept
    (hlabels.imp fun _ _ => h.outcome_label)
  exact Option.some.inj (Except.ok.inj (hlabel.symm.trans hlabel'))

end IsKeptIn

/-! ### Further records -/

/-- **What is found after further records without an info record** is the last of them with the id,
or what was found before. -/
theorem find?_afterAll_of_no_info (store : Store) {more : List Call}
    (hinfo : ∀ call ∈ usable more, call.kind? ≠ some .info) (table : Table) (id : Int) :
    (store.afterAll more).find? table id =
      ((lastIn table id (usable more)).map fun call => call.entry id).or
        (store.find? table id) := by
  have hall : sinceInfo more = usable more := by
    rw [sinceInfo, List.rtakeWhile_eq_self_iff]
    simpa using hinfo
  have hnone : lastOf .info (usable more) = none := by
    rw [lastOf, List.getLast?_eq_none_iff, List.filter_eq_nil_iff]
    simpa using hinfo
  rw [find?_afterAll, hall, hnone, Option.isSome_none, if_neg Bool.false_ne_true]

theorem HasOwnIds.afterAll (h : store.HasOwnIds) {more : List Call}
    (hinfo : ∀ call ∈ usable more, call.kind? ≠ some .info) : (store.afterAll more).HasOwnIds := by
  intro table id entry hentry
  rw [find?_afterAll_of_no_info store hinfo, Option.or_eq_some_iff, Option.map_eq_some_iff] at hentry
  rcases hentry with ⟨call, -, rfl⟩ | ⟨-, hentry⟩
  · rfl
  · exact h table id entry hentry

/-- Records with new ids leave all that was found before. -/
theorem isKeptIn_afterAll {more : List Call}
    (hinfo : ∀ call ∈ usable more, call.kind? ≠ some .info)
    (hnew : ∀ call ∈ usable more, ∀ table id, call.idIn? table = some id →
      store.find? table id = none) : store.IsKeptIn (store.afterAll more) := by
  intro table id entry hentry
  have hlast : lastIn table id (usable more) = none := by
    rw [← Option.not_isSome_iff_eq_none, isSome_lastIn_iff]
    rintro ⟨call, hcall, hid⟩
    rw [hnew call hcall table id hid] at hentry
    exact Option.some_ne_none entry hentry.symm
  rw [find?_afterAll_of_no_info store hinfo, hlast]
  exact hentry

/-- **A new label symbol** is one of the ids that the further records leave. -/
theorem mem_labelIds_iff {more : List Call}
    (hinfo : ∀ call ∈ usable more, call.kind? ≠ some .info)
    (hnew : ∀ call ∈ usable more, ∀ table id, call.idIn? table = some id →
      store.find? table id = none) {id : Int} :
    id ∈ labelIds (usable more) ↔
      store.find? .symbol id = none ∧
        ∃ symbol, (store.afterAll more).find? .symbol id = some symbol ∧
          Symbol.isLabel symbol = true := by
  have hlabel : ∀ call : Call, call.idIn? .symbol = some id →
      (call.isLabel = true ↔ Symbol.isLabel (call.entry id) = true) := by
    intro call hid
    have hkind := RecordLine.kind?_of_idIn? hid
    simp [RecordLine.isLabel, hkind, Symbol.isLabel, Symbol.type, Entry.get?, Call.entry]
  have hof : ∀ call, lastIn .symbol id (usable more) = some call →
      call ∈ usable more ∧ call.idIn? .symbol = some id := by
    intro call hlast
    simpa using List.mem_filter.1 (List.mem_of_getLast? hlast)
  rw [mem_labelIds, find?_afterAll_of_no_info store hinfo]
  constructor
  · rintro ⟨call, hlast, hcall⟩
    obtain ⟨hmem, hid⟩ := hof call hlast
    rw [hlast]
    exact ⟨hnew call hmem .symbol id hid, call.entry id, rfl, (hlabel call hid).1 hcall⟩
  · rintro ⟨hnone, symbol, hfound, hsymbol⟩
    rw [hnone, Option.or_none, Option.map_eq_some_iff] at hfound
    obtain ⟨call, hlast, rfl⟩ := hfound
    obtain ⟨hmem, hid⟩ := hof call hlast
    exact ⟨call, hlast, (hlabel call hid).2 hsymbol⟩

/-- There is one new label symbol for each id that the further records leave. -/
theorem length_filter_new {more : List Call} (hstore : store.HasOwnIds)
    (hinfo : ∀ call ∈ usable more, call.kind? ≠ some .info)
    (hnew : ∀ call ∈ usable more, ∀ table id, call.idIn? table = some id →
      store.find? table id = none) :
    (((store.afterAll more).symbols.filter Symbol.isLabel).filter fun symbol =>
      !(store.find? .symbol symbol.id).isSome).length = (labelIds (usable more)).card := by
  have hlater := hstore.afterAll hinfo
  have hids : labelIds (usable more) =
      ((((store.afterAll more).symbols.filter Symbol.isLabel).filter fun symbol =>
        !(store.find? .symbol symbol.id).isSome).map Entry.id).toFinset := by
    ext id
    simp only [mem_labelIds_iff hinfo hnew, List.mem_toFinset, List.mem_map, List.mem_filter,
      mem_symbols, Bool.not_eq_true', Option.isSome_eq_false_iff, Option.isNone_iff_eq_none]
    constructor
    · rintro ⟨hnone, symbol, hfound, hlabel⟩
      obtain rfl := hlater _ _ _ hfound
      exact ⟨symbol, ⟨⟨⟨_, hfound⟩, hlabel⟩, hnone⟩, rfl⟩
    · rintro ⟨symbol, ⟨⟨⟨id, hfound⟩, hlabel⟩, hnone⟩, rfl⟩
      obtain rfl := hlater _ _ _ hfound
      exact ⟨hnone, symbol, hfound, hlabel⟩
  have hnodup : ((((store.afterAll more).symbols.filter Symbol.isLabel).filter fun symbol =>
      !(store.find? .symbol symbol.id).isSome).map Entry.id).Nodup := by
    rw [List.Nodup, List.pairwise_map]
    exact (((pairwise_symbols (hlater .symbol)).filter _).filter _).imp fun hlt => hlt.ne
  rw [hids, List.toFinset_card_of_nodup hnodup, List.length_map]

/-- Without new label symbols the label symbols are the old ones. -/
theorem filter_isLabel_afterAll {more : List Call} (hstore : store.HasOwnIds)
    (hinfo : ∀ call ∈ usable more, call.kind? ≠ some .info)
    (hnew : ∀ call ∈ usable more, ∀ table id, call.idIn? table = some id →
      store.find? table id = none) (hno : ∀ call ∈ usable more, call.isLabel = false) :
    (store.afterAll more).symbols.filter Symbol.isLabel =
      store.symbols.filter Symbol.isLabel := by
  have hnil : labelIds (usable more) = ∅ := by
    refine Finset.eq_empty_of_forall_notMem fun id hid => ?_
    obtain ⟨call, hlast, hlabel⟩ := mem_labelIds.1 hid
    have hcall := (List.mem_filter.1 (List.mem_of_getLast? hlast)).1
    rw [hno call hcall] at hlabel
    exact Bool.false_ne_true hlabel
  have hlength := length_filter_new hstore hinfo hnew
  rw [hnil, Finset.card_empty, List.length_eq_zero_iff, List.filter_eq_nil_iff] at hlength
  rw [← (isKeptIn_afterAll hinfo hnew).filter_isLabel hstore (hstore.afterAll hinfo), eq_comm,
    List.filter_eq_self]
  intro symbol hsymbol
  simpa [Option.isSome_iff_ne_none] using hlength symbol hsymbol

/-- There is one label more for each id that the further records leave. -/
theorem length_labels_afterAll {more : List Call} (hstore : store.HasOwnIds)
    (hinfo : ∀ call ∈ usable more, call.kind? ≠ some .info)
    (hnew : ∀ call ∈ usable more, ∀ table id, call.idIn? table = some id →
      store.find? table id = none) {labels labels' : List Label}
    (hlabels : (store.labelsOf settings store.symbols).outcome = .ok labels)
    (hlabels' : ((store.afterAll more).labelsOf settings (store.afterAll more).symbols).outcome =
      .ok labels') :
    labels'.length = labels.length + (labelIds (usable more)).card := by
  rw [← (outcome_labelsOf_eq_ok_iff.1 hlabels).length_eq,
    ← (outcome_labelsOf_eq_ok_iff.1 hlabels').length_eq,
    ← length_filter_new hstore hinfo hnew,
    ← (isKeptIn_afterAll hinfo hnew).filter_isLabel hstore (hstore.afterAll hinfo)]
  exact List.length_eq_length_filter_add fun symbol : Symbol =>
    (store.find? .symbol symbol.id).isSome

/-- **Further records leave the labels of a store where they are.**  Take a store that has a listing
and hand it records, none of which is an info record or has an id that is taken; those that are
rejected may be anything.  If none of them is a label symbol, there is a listing afterwards, with
the same labels.  And whenever there is one, the old labels are its labels of old symbols, so that
the old lines are among the new ones in their order, and there is one more for each label symbol
that was added. -/
theorem listing_afterAll_grows (calls more : List Call) (settings : Settings) {listing : Listing}
    (hlisting : ((empty.afterAll calls).listing settings).outcome = .ok listing)
    (hinfo : ∀ call ∈ usable more, call.kind? ≠ some .info)
    (hnew : ∀ call ∈ usable more, ∀ table id, call.idIn? table = some id →
      (empty.afterAll calls).find? table id = none) :
    ((∀ call ∈ usable more, call.isLabel = false) →
      ∃ later, (((empty.afterAll calls).afterAll more).listing settings).outcome = .ok later ∧
        later.labels = listing.labels ∧ later.lines = listing.lines) ∧
    ∀ later, (((empty.afterAll calls).afterAll more).listing settings).outcome = .ok later →
      later.labels.filter (Label.isOf (empty.afterAll calls)) = listing.labels ∧
      listing.lines.Sublist later.lines ∧
      later.lines.length = listing.lines.length + (labelIds (usable more)).card ∧
      (RecordLine.HaveDistinctIds ((usable more).map Call.toRecordLine) →
        (labelIds (usable more)).card = (usable more).countP fun call => call.isLabel) := by
  have hstore := hasOwnIds_afterAll calls
  have husable : ∀ call ∈ usable more, call.isUsable = true := fun call hcall =>
    (List.mem_filter.1 hcall).2
  generalize empty.afterAll calls = store at hlisting hnew hstore ⊢
  have hkept := isKeptIn_afterAll hinfo hnew
  have hlater := hstore.afterAll hinfo
  have hlabels := (outcome_listing_eq_ok_iff.1 hlisting).1
  constructor
  · intro hno
    have hsame : ((store.afterAll more).labelsOf settings
        (store.afterAll more).symbols).outcome = .ok listing.labels := by
      rw [outcome_labelsOf_eq_ok_iff] at hlabels ⊢
      rw [filter_isLabel_afterAll hstore hinfo hnew hno]
      exact hlabels.imp fun _ _ => hkept.outcome_label
    exact ⟨⟨listing.labels, (store.afterAll more).count (.table .symbol),
      (store.afterAll more).banner⟩, outcome_listing_eq_ok_iff.2 ⟨hsame, rfl, rfl⟩, rfl, rfl⟩
  · intro later hlisting'
    have hlabels' := (outcome_listing_eq_ok_iff.1 hlisting').1
    have hfilter := hkept.filter_labels hstore hlater hlabels hlabels'
    have hlength := length_labels_afterAll hstore hinfo hnew hlabels hlabels'
    refine ⟨hfilter, ?_, ?_, card_labelIds husable⟩
    · rw [Listing.lines, Listing.lines, ← hfilter]
      exact List.filter_sublist.map Label.line
    · rw [Listing.lines, Listing.lines, List.length_map, List.length_map, hlength]

/-- A label and a scope are added, and the label comes in front. -/
theorem listing_afterAll_grows_two :
    ∃ listing later : Listing,
      ((empty.afterAll [⟨⟨"sym", "id=1,type=lab,val=10"⟩, none⟩]).listing {}).outcome =
        .ok listing ∧
      (((empty.afterAll [⟨⟨"sym", "id=1,type=lab,val=10"⟩, none⟩]).afterAll
        [⟨⟨"scope", "id=1"⟩, none⟩, ⟨⟨"sym", "id=0,type=lab,val=20"⟩, none⟩]).listing {}).outcome =
        .ok later ∧
      later.lines = ["R:20:", "R:10:"] ∧ listing.lines.Sublist later.lines ∧
      later.lines.length = listing.lines.length + 1 := by
  obtain ⟨listing, hlisting⟩ : ∃ listing,
      ((empty.afterAll [⟨⟨"sym", "id=1,type=lab,val=10"⟩, none⟩]).listing {}).outcome =
        .ok listing := ⟨_, rfl⟩
  obtain ⟨later, hlater, hlines⟩ : ∃ later,
      (((empty.afterAll [⟨⟨"sym", "id=1,type=lab,val=10"⟩, none⟩]).afterAll
        [⟨⟨"scope", "id=1"⟩, none⟩, ⟨⟨"sym", "id=0,type=lab,val=20"⟩, none⟩]).listing {}).outcome =
        .ok later ∧ later.lines = ["R:20:", "R:10:"] := ⟨_, rfl, by decide⟩
  have hall : usable [⟨⟨"scope", "id=1"⟩, none⟩, ⟨⟨"sym", "id=0,type=lab,val=20"⟩, none⟩] =
      [⟨⟨"scope", "id=1"⟩, none⟩, ⟨⟨"sym", "id=0,type=lab,val=20"⟩, none⟩] := by decide
  obtain ⟨-, hgrown⟩ := listing_afterAll_grows _
    [⟨⟨"scope", "id=1"⟩, none⟩, ⟨⟨"sym", "id=0,type=lab,val=20"⟩, none⟩] {} hlisting
    (by rw [hall]; decide) (by
      rw [hall]
      intro call hcall table id hid
      simp only [List.mem_cons, List.not_mem_nil, or_false] at hcall
      have hkind := RecordLine.kind?_of_idIn? hid
      rw [RecordLine.idIn?_of_kind? hkind] at hid
      have hscope : RecordLine.kind? ⟨"scope", "id=1"⟩ = some (.table .scope) ∧
          RecordLine.number? ⟨"scope", "id=1"⟩ = some 1 := by decide
      have hsymbol : RecordLine.kind? ⟨"sym", "id=0,type=lab,val=20"⟩ = some (.table .symbol) ∧
          RecordLine.number? ⟨"sym", "id=0,type=lab,val=20"⟩ = some 0 := by decide
      rcases hcall with rfl | rfl
      · obtain rfl := Kind.table.inj (Option.some.inj (hscope.1.symm.trans hkind))
        obtain rfl := Option.some.inj (hscope.2.symm.trans hid)
        rfl
      · obtain rfl := Kind.table.inj (Option.some.inj (hsymbol.1.symm.trans hkind))
        obtain rfl := Option.some.inj (hsymbol.2.symm.trans hid)
        rfl)
  obtain ⟨-, hsublist, hlength, -⟩ := hgrown later hlater
  exact ⟨listing, later, hlisting, hlater, hlines, hsublist, hlength⟩

end Store
end DebugLabels
