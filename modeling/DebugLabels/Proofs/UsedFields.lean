import DebugLabels.Proofs.Listed

/-!
# The fields that a listing depends on

`Store.Uses` names the fields that a listing of a store depends on.  Of a label symbol they are its
address, name and comment, and with ranges its size.  For a label in the ROM window the links are
followed too: the scope field of the symbol or, if it has none, its parent field and the scope field
of the parent; the span list of the scope; the segment of the span with the least id; and start and
offset of the segment.

Two stores with the same ids of symbols and the same label symbols that agree on these fields
(`AgreeOnUsed`) have listings with the same lines, if the first has one at all: that is the main
statement, `listing_of_agreeOnUsed`.  All other fields and records may differ, be missing or hold
anything.
-/

namespace DebugLabels
namespace Store

variable {store a b : Store} {settings : Settings}

/-- The text of a field of an entry, if the entry and its field are there. -/
def field? (store : Store) (table : Table) (id : Int) (key : String) : Option String :=
  (store.find? table id).bind fun entry => entry.get? key

/-- There is a label symbol under the id. -/
def HasLabel (store : Store) (id : Int) (symbol : Symbol) : Prop :=
  store.find? .symbol id = some symbol ∧ symbol.get? "type" = some "lab"

/-- There is a label symbol under the id whose address is in the ROM window. -/
def HasRomLabel (store : Store) (id : Int) (symbol : Symbol) : Prop :=
  store.HasLabel id symbol ∧
    ∃ address, symbol.Reads .hexadecimal "val" address ∧ 0x8000 ≤ address

/-- The field is one that a listing of the store depends on. -/
inductive Uses (store : Store) (settings : Settings) : Table → Int → String → Prop
  | listed {id : Int} {symbol : Symbol} {key : String} (hlabel : store.HasLabel id symbol)
      (hkey : key ∈ ["val", "name", "comment"]) : Uses store settings .symbol id key
  | size {id : Int} {symbol : Symbol} (hlabel : store.HasLabel id symbol)
      (hranges : settings.ranges = true) : Uses store settings .symbol id "size"
  | scope {id : Int} {symbol : Symbol} (hrom : store.HasRomLabel id symbol) :
      Uses store settings .symbol id "scope"
  /-- The parent of a symbol that names no scope. -/
  | parent {id : Int} {symbol : Symbol} (hrom : store.HasRomLabel id symbol)
      (hnone : symbol.get? "scope" = none) : Uses store settings .symbol id "parent"
  | parentScope {id parentId : Int} {symbol : Symbol} (hrom : store.HasRomLabel id symbol)
      (hnone : symbol.get? "scope" = none) (hparent : symbol.Reads .decimal "parent" parentId) :
      Uses store settings .symbol parentId "scope"
  | spans {id scopeId : Int} {symbol : Symbol} (hrom : store.HasRomLabel id symbol)
      (hscope : store.HasScope symbol scopeId) : Uses store settings .scope scopeId "span"
  /-- The segment of no other span than the one with the least id. -/
  | segment {id scopeId spanId : Int} {symbol : Symbol} {scope : Scope}
      (hrom : store.HasRomLabel id symbol) (hscopeId : store.HasScope symbol scopeId)
      (hscope : store.find? .scope scopeId = some scope)
      (hspanId : Scope.HasLeastSpan scope spanId) : Uses store settings .span spanId "seg"
  | place {id segmentId : Int} {symbol : Symbol} {segment : Segment} {key : String}
      (hrom : store.HasRomLabel id symbol) (hlies : store.LiesIn symbol segmentId segment)
      (hkey : key ∈ ["start", "ooffs"]) : Uses store settings .segment segmentId key

/-- Two stores have symbols under the same ids, the same of them are labels, and they agree on every
field that a listing of the first depends on. -/
structure AgreeOnUsed (settings : Settings) (a b : Store) : Prop where
  found : ∀ id, (a.find? .symbol id).isSome = (b.find? .symbol id).isSome
  isLabel : ∀ id, a.field? .symbol id "type" = some "lab" ↔ b.field? .symbol id "type" = some "lab"
  field : ∀ {table id key}, a.Uses settings table id key →
    a.field? table id key = b.field? table id key

namespace Uses

variable {table : Table} {id : Int} {key : String}

/-- No field of a source file is used. -/
theorem ne_file (h : store.Uses settings table id key) : table ≠ .file := by
  cases h <;> decide

/-- Without ranges no size is used. -/
theorem ne_size (h : store.Uses settings table id key) (hranges : settings.ranges = false) :
    key ≠ "size" := by
  cases h with
  | listed _ hkey | place _ _ hkey =>
    rintro rfl
    simp at hkey
  | size _ hsize => exact absurd hsize (by simp [hranges])
  | scope | parent | parentScope | spans | segment => decide

end Uses

theorem field?_of_find? {table : Table} {id : Int} {entry : Entry table}
    (h : store.find? table id = some entry) (key : String) :
    store.field? table id key = entry.get? key := by
  rw [field?, h, Option.bind_some]

namespace AgreeOnUsed

variable {symbol other : Symbol} {id : Int}

/-- A field that is used and there is found in the other store too. -/
theorem exists_get? (h : AgreeOnUsed settings a b) {table : Table} {id : Int} {key raw : String}
    {entry : Entry table} (huses : a.Uses settings table id key)
    (hentry : a.find? table id = some entry) (hraw : entry.get? key = some raw) :
    ∃ found : Entry table, b.find? table id = some found ∧ found.get? key = some raw := by
  have hfield := h.field huses
  rw [field?_of_find? hentry, hraw, eq_comm, field?, Option.bind_eq_some_iff] at hfield
  exact hfield

/-- A field that is used is the same in two entries that are there. -/
theorem get?_eq (h : AgreeOnUsed settings a b) {table : Table} {id : Int} {key : String}
    {entry found : Entry table} (huses : a.Uses settings table id key)
    (hentry : a.find? table id = some entry) (hfound : b.find? table id = some found) :
    found.get? key = entry.get? key := by
  rw [← field?_of_find? hentry, ← field?_of_find? hfound, h.field huses]

/-- A number that is used is read in the other store too. -/
theorem exists_reads (h : AgreeOnUsed settings a b) {table : Table} {id n : Int} {key : String}
    {radix : Radix} {entry : Entry table} (huses : a.Uses settings table id key)
    (hentry : a.find? table id = some entry) (hread : entry.Reads radix key n) :
    ∃ found : Entry table, b.find? table id = some found ∧ found.Reads radix key n := by
  obtain ⟨raw, hraw, hn⟩ := hread
  obtain ⟨found, hfound, hsame⟩ := h.exists_get? huses hentry hraw
  exact ⟨found, hfound, raw, hsame, hn⟩

theorem reads (h : AgreeOnUsed settings a b) {table : Table} {id n : Int} {key : String}
    {radix : Radix} {entry found : Entry table} (huses : a.Uses settings table id key)
    (hentry : a.find? table id = some entry) (hfound : b.find? table id = some found)
    (hread : entry.Reads radix key n) : found.Reads radix key n := by
  obtain ⟨raw, hraw, hn⟩ := hread
  exact ⟨raw, (h.get?_eq huses hentry hfound).trans hraw, hn⟩

/-- The scope of a label in the ROM window is the same. -/
theorem hasScope (h : AgreeOnUsed settings a b) (hrom : a.HasRomLabel id symbol)
    (hother : b.find? .symbol id = some other) {scopeId : Int}
    (hscope : a.HasScope symbol scopeId) : b.HasScope other scopeId := by
  have hsymbol := hrom.1.1
  rcases hscope with hown | ⟨hnone, parentId, hparentId, parent, hparent, hscope⟩
  · exact Or.inl (h.reads (.scope hrom) hsymbol hother hown)
  · obtain ⟨found, hfound, hread⟩ :=
      h.exists_reads (.parentScope hrom hnone hparentId) hparent hscope
    refine Or.inr ⟨(h.get?_eq (.scope hrom) hsymbol hother).trans hnone, parentId,
      h.reads (.parent hrom hnone) hsymbol hother hparentId, found, hfound, hread⟩

/-- The links of a label in the ROM window lead to a segment at the same place. -/
theorem exists_liesIn (h : AgreeOnUsed settings a b) (hrom : a.HasRomLabel id symbol)
    (hother : b.find? .symbol id = some other) {segmentId start offset : Int} {segment : Segment}
    (hlies : a.LiesIn symbol segmentId segment) (hplaced : Segment.IsPlacedAt segment start offset) :
    ∃ found, b.LiesIn other segmentId found ∧ Segment.IsPlacedAt found start offset := by
  have hplace : ∀ {key}, key ∈ ["start", "ooffs"] → a.Uses settings .segment segmentId key :=
    fun hkey => .place hrom hlies hkey
  obtain ⟨scopeId, hscopeId, scope, hscope, spanId, hspanId, span, hspan, hseg, hsegment⟩ := hlies
  have ⟨raw, ids, hraw, hids, hleast⟩ := hspanId
  obtain ⟨scope', hscope', hraw'⟩ := h.exists_get? (.spans hrom hscopeId) hscope hraw
  obtain ⟨span', hspan', hseg'⟩ :=
    h.exists_reads (.segment hrom hscopeId hscope hspanId) hspan hseg
  obtain ⟨segment', hsegment', hstart⟩ := h.exists_reads (hplace (by simp)) hsegment hplaced.1
  refine ⟨segment', ⟨scopeId, h.hasScope hrom hother hscopeId, scope', hscope', spanId,
    ⟨raw, ids, hraw', hids, hleast⟩, span', hspan', hseg', hsegment'⟩, hstart, ?_⟩
  exact h.reads (hplace (by simp)) hsegment hsegment' hplaced.2

theorem isListedUnder (h : AgreeOnUsed settings a b) (hlabel : a.HasLabel id symbol)
    (hother : b.find? .symbol id = some other) {address value : Int}
    (haddress : symbol.Reads .hexadecimal "val" address)
    (hvalue : a.IsListedUnder settings symbol address value) :
    b.IsListedUnder settings other address value := by
  unfold IsListedUnder at hvalue ⊢
  split
  · rename_i hrom
    rw [if_pos hrom] at hvalue
    obtain ⟨segmentId, segment, start, offset, hlies, hplaced, hvalue⟩ := hvalue
    obtain ⟨found, hlies', hplaced'⟩ :=
      h.exists_liesIn ⟨hlabel, address, haddress, hrom⟩ hother hlies hplaced
    exact ⟨segmentId, found, start, offset, hlies', hplaced', hvalue⟩
  · rename_i hram
    rwa [if_neg hram] at hvalue

theorem endsAt (h : AgreeOnUsed settings a b) (hlabel : a.HasLabel id symbol)
    (hother : b.find? .symbol id = some other) {value : Int} {last : Option Int}
    (hlast : EndsAt settings symbol value last) : EndsAt settings other value last := by
  unfold EndsAt at hlast ⊢
  split
  · rename_i hranges
    rw [if_pos hranges] at hlast
    have huses : a.Uses settings .symbol id "size" := .size hlabel hranges
    rcases hlast with ⟨hnone, hlast⟩ | ⟨size, hsize, hlast⟩
    · exact Or.inl ⟨(h.get?_eq huses hlabel.1 hother).trans hnone, hlast⟩
    · exact Or.inr ⟨size, h.reads huses hlabel.1 hother hsize, hlast⟩
  · rename_i hranges
    rwa [if_neg hranges] at hlast

/-- **The label of a symbol is the same** but for the id of the symbol. -/
theorem exists_label (h : AgreeOnUsed settings a b) (hsymbol : a.find? .symbol id = some symbol)
    (hother : b.find? .symbol id = some other) {label : Label}
    (hlabel : (a.label settings symbol).outcome = .ok (some label)) :
    ∃ label', (b.label settings other).outcome = .ok (some label') ∧ label.SameButId label' := by
  obtain ⟨htype, address, value, last, haddress, hvalue, hlast, rfl⟩ :=
    outcome_label_eq_ok_some_iff.1 hlabel
  have hhas : a.HasLabel id symbol := ⟨hsymbol, htype⟩
  have hlisted : ∀ key, key ∈ ["val", "name", "comment"] → other.get? key = symbol.get? key :=
    fun key hkey => h.get?_eq (.listed hhas hkey) hsymbol hother
  have htype' : other.get? "type" = some "lab" := by
    rw [← field?_of_find? hother, ← h.isLabel, field?_of_find? hsymbol]
    exact htype
  refine ⟨_, outcome_label_eq_ok_some_iff.2 ⟨htype', address, value, last,
    h.reads (.listed hhas (by simp)) hsymbol hother haddress,
    h.isListedUnder hhas hother haddress hvalue, h.endsAt hhas hother hlast, rfl⟩, ?_⟩
  simp only [Label.SameButId, Symbol.name, Symbol.comment, hlisted _ (by simp : "name" ∈ _),
    hlisted _ (by simp : "comment" ∈ _)]

end AgreeOnUsed

/-! ### From one symbol to all -/

/-- The symbols of two stores with the same ids stand in the same places. -/
theorem forall₂_symbols (h : ∀ id, (a.find? .symbol id).isSome = (b.find? .symbol id).isSome) :
    List.Forall₂ (fun symbol other => ∃ id, a.find? .symbol id = some symbol ∧
      b.find? .symbol id = some other) a.symbols b.symbols := by
  have hkeys : a.symbolTable.toList.map Prod.fst = b.symbolTable.toList.map Prod.fst := by
    have hids : a.symbolTable.map (fun _ _ => ()) = b.symbolTable.map fun _ _ => () := by
      refine Std.ExtTreeMap.ext_getElem? fun id => ?_
      have hid := h id
      simp only [find?, entries] at hid
      simp only [Std.ExtTreeMap.getElem?_map]
      cases ha : a.symbolTable[id]? <;> cases hb : b.symbolTable[id]? <;> simp_all
    rw [Std.ExtTreeMap.map_fst_toList_eq_keys, Std.ExtTreeMap.map_fst_toList_eq_keys,
      ← Std.ExtTreeMap.keys_map (f := fun _ _ => ()), hids, Std.ExtTreeMap.keys_map]
  rw [symbols, symbols, List.forall₂_map_left_iff, List.forall₂_map_right_iff,
    List.forall₂_iff_zip]
  rw [← List.forall₂_eq_eq_eq, List.forall₂_map_left_iff, List.forall₂_map_right_iff,
    List.forall₂_iff_zip] at hkeys
  refine ⟨hkeys.1, fun {pair other} hmem => ⟨pair.1, ?_, ?_⟩⟩
  · exact Std.ExtTreeMap.mem_toList_iff_getElem?_eq_some.1 (List.of_mem_zip hmem).1
  · rw [hkeys.2 hmem]
    exact Std.ExtTreeMap.mem_toList_iff_getElem?_eq_some.1 (List.of_mem_zip hmem).2

/-- Lists that match two others match each other, if their members do. -/
theorem exists_forall₂_of_forall₂ {α β γ δ : Type} {S : α → β → Prop} {P : α → γ → Prop}
    {Q : β → δ → Prop} {T : γ → δ → Prop}
    (h : ∀ a b c, S a b → P a c → ∃ d, Q b d ∧ T c d) {as : List α} {bs : List β} {cs : List γ}
    (hab : List.Forall₂ S as bs) (hac : List.Forall₂ P as cs) :
    ∃ ds, List.Forall₂ Q bs ds ∧ List.Forall₂ T cs ds := by
  induction hab generalizing cs with
  | nil =>
    cases hac
    exact ⟨[], .nil, .nil⟩
  | cons hab _ ih =>
    cases hac with
    | cons hac hacs =>
      obtain ⟨d, hbd, hcd⟩ := h _ _ _ hab hac
      obtain ⟨ds, hbds, hcds⟩ := ih hacs
      exact ⟨d :: ds, .cons hbd hbds, .cons hcd hcds⟩

/-- **A listing depends on the fields that it uses and on nothing else.**  If a store has a listing
and another agrees with it on the fields that are used, the other has a listing with the same
lines. -/
theorem listing_of_agreeOnUsed (h : AgreeOnUsed settings a b) {listing : Listing}
    (hlisting : (a.listing settings).outcome = .ok listing) :
    ∃ other, (b.listing settings).outcome = .ok other ∧ listing.SameLines other := by
  obtain ⟨hlabels, hread, -⟩ := outcome_listing_eq_ok_iff.1 hlisting
  have hsymbols := forall₂_symbols h.found
  have hlabelSymbols : List.Forall₂ (fun symbol other => ∃ id, a.find? .symbol id = some symbol ∧
      b.find? .symbol id = some other) (a.symbols.filter Symbol.isLabel)
      (b.symbols.filter Symbol.isLabel) := by
    refine List.rel_filter (fun symbol other hid => ?_) hsymbols
    obtain ⟨id, hsymbol, hother⟩ := hid
    have hlabel := h.isLabel id
    rw [field?_of_find? hsymbol, field?_of_find? hother] at hlabel
    simpa [Symbol.isLabel, Symbol.type] using hlabel
  obtain ⟨labels, hlabels', hsame⟩ := exists_forall₂_of_forall₂
    (fun symbol other label hid hlabel => by
      obtain ⟨id, hsymbol, hother⟩ := hid
      exact h.exists_label hsymbol hother hlabel)
    hlabelSymbols (outcome_labelsOf_eq_ok_iff.1 hlabels)
  refine ⟨⟨labels, b.count (.table .symbol), b.banner⟩,
    outcome_listing_eq_ok_iff.2 ⟨outcome_labelsOf_eq_ok_iff.2 hlabels', rfl, rfl⟩,
    Listing.sameLines_of_forall₂ hsame ?_⟩
  rw [hread, count_symbol, count_symbol, hsymbols.length_eq]

/-- The entries of a PRG-ROM label but for the symbol. -/
def romScope : Store :=
  empty
    |>.put (⟨2, ⟨[("ooffs", "16"), ("start", "8000")], by decide⟩, none⟩ : Entry .segment)
    |>.put (⟨1, ⟨[("seg", "2")], by decide⟩, none⟩ : Entry .span)
    |>.put (⟨0, ⟨[("span", "1")], by decide⟩, none⟩ : Entry .scope)

/-- The symbol of a PRG-ROM label. -/
def romSymbol : Entry .symbol :=
  ⟨0, ⟨[("type", "lab"), ("val", "8001"), ("scope", "0")], by decide⟩, none⟩

/-- The same symbol with a size that is no number. -/
def romSymbolOfNoSize : Entry .symbol :=
  ⟨0, ⟨[("type", "lab"), ("val", "8001"), ("scope", "0"), ("size", "x")], by decide⟩, none⟩

/-- A source file without fields. -/
def emptyFile : Entry .file := ⟨0, .empty, none⟩

/-- Without ranges, a size that is no number and a source file do not matter. -/
theorem listing_of_agreeOnUsed_size :
    AgreeOnUsed {} (romScope.put romSymbol) ((romScope.put romSymbolOfNoSize).put emptyFile) ∧
    ∃ listing other, ((romScope.put romSymbol).listing {}).outcome = .ok listing ∧
      listing.lines = ["P:1:"] ∧
      (((romScope.put romSymbolOfNoSize).put emptyFile).listing {}).outcome = .ok other ∧
      listing.SameLines other := by
  have hfind : ∀ table id, table ≠ .file → table ≠ .symbol →
      (romScope.put romSymbol).find? table id =
        ((romScope.put romSymbolOfNoSize).put emptyFile).find? table id := by
    intro table id hfile hsymbol
    rw [find?_put_of_ne _ _ hfile.symm, find?_put_of_ne _ _ hsymbol.symm,
      find?_put_of_ne _ _ hsymbol.symm]
  have hsymbol : ∀ id, (romScope.put romSymbol).find? .symbol id =
        (if (0 : Int) = id then some romSymbol else none) ∧
      ((romScope.put romSymbolOfNoSize).put emptyFile).find? .symbol id =
        if (0 : Int) = id then some romSymbolOfNoSize else none := by
    intro id
    have hnone : romScope.find? .symbol id = none := by simp [romScope, find?_put_of_ne]
    rw [find?_put_of_ne _ _ (by decide : Table.file ≠ .symbol), find?_put, find?_put, hnone]
    exact ⟨rfl, rfl⟩
  have hfield : ∀ table id key, table ≠ .file → key ≠ "size" →
      (romScope.put romSymbol).field? table id key =
        ((romScope.put romSymbolOfNoSize).put emptyFile).field? table id key := by
    intro table id key hfile hkey
    by_cases htable : table = .symbol
    · subst htable
      rw [field?, field?, (hsymbol id).1, (hsymbol id).2]
      split
      · simp [romSymbol, romSymbolOfNoSize, Entry.get?, Fields.get?, List.lookup_cons,
          beq_false_of_ne hkey]
      · rfl
    · rw [field?, field?, hfind table id hfile htable]
  have hagree : AgreeOnUsed {} (romScope.put romSymbol)
      ((romScope.put romSymbolOfNoSize).put emptyFile) := by
    refine ⟨fun id => ?_, fun id => ?_, fun huses => ?_⟩
    · rw [(hsymbol id).1, (hsymbol id).2]
      split <;> rfl
    · rw [hfield _ _ _ (by decide) (by decide)]
    · exact hfield _ _ _ huses.ne_file (huses.ne_size rfl)
  obtain ⟨listing, hlisting, hlines⟩ : ∃ listing,
      ((romScope.put romSymbol).listing {}).outcome = .ok listing ∧ listing.lines = ["P:1:"] :=
    ⟨_, rfl, by decide⟩
  obtain ⟨other, hother, hsame⟩ := listing_of_agreeOnUsed hagree hlisting
  exact ⟨hagree, listing, other, hlisting, hlines, hother, hsame⟩

end Store
end DebugLabels
