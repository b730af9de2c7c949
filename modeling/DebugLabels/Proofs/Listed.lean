import Mathlib.Data.List.Forall2
import DebugLabels.Listing
import DebugLabels.Proofs.History
import DebugLabels.Proofs.Links

/-!
# What is listed

A listing is made of the label symbols of a store, each by itself. `IsListable` says of a symbol
what a listing needs of it, and `HasLine` which line the listing then has for it; both speak of
fields and look-ups only. `outcome_label_eq_ok_some_iff` shows that they are what labelling a symbol
comes to, `outcome_labelsOf_eq_ok_iff` takes it from one symbol to a list of them, and
`listing_afterAll` to a store after any sequence of records: a listing is made exactly if every
label symbol is listable, and has one line for each, by ascending id.
-/

namespace DebugLabels

/-- The tag of an address. -/
def tagAt (ram : ExpansionRam) (address : Int) : String :=
  if address < 0x2000 then "R"
  else if address < 0x6000 then "G"
  else if address < 0x8000 then ram.tag
  else "P"

theorem Region.tag_ofAddress (address : Int) (ram : ExpansionRam) :
    (ofAddress address ram).tag = tagAt ram address := by
  unfold ofAddress tagAt
  split
  · rfl
  · split
    · rfl
    · split
      · cases ram <;> rfl
      · rfl

/-- Two labels are the same but for the id of the symbol. -/
def Label.SameButId (label other : Label) : Prop :=
  other = { label with symbolId := other.symbolId }

/-- Two listings have the same lines, the same number of labels in each region, and the same number
of symbols. -/
structure Listing.SameLines (listing other : Listing) : Prop where
  lines : other.lines = listing.lines
  count : ∀ region, other.count region = listing.count region
  symbolsRead : other.symbolsRead = listing.symbolsRead

/-- Labels that are the same but for the ids of their symbols make the same lines. -/
theorem Listing.sameLines_of_forall₂ {listing other : Listing}
    (h : List.Forall₂ Label.SameButId listing.labels other.labels)
    (hread : other.symbolsRead = listing.symbolsRead) : listing.SameLines other := by
  have hmap : ∀ {α : Type} (f : Label → α), (∀ label id, f { label with symbolId := id } = f label) →
      other.labels.map f = listing.labels.map f := by
    intro α f hf
    rw [eq_comm, ← List.forall₂_eq_eq_eq, List.forall₂_map_left_iff, List.forall₂_map_right_iff]
    refine h.imp fun label label' hlabel => ?_
    rw [hlabel]
    exact (hf label _).symm
  have hregion : other.labels.map Label.region = listing.labels.map Label.region :=
    hmap _ fun _ _ => rfl
  have hcount : ∀ (listing : Listing) region,
      listing.count region = (listing.labels.map Label.region).count region := by
    intro listing region
    rw [Listing.count, List.count, List.countP_map]
    rfl
  exact ⟨hmap _ fun _ _ => rfl, fun region => by rw [hcount, hcount, hregion], hread⟩

namespace Store

variable {store : Store} {settings : Settings} {symbol : Symbol}

/-- The value that a symbol at an address is listed under: in the ROM window its offset in the image
less the base offset, which must not be negative, and elsewhere the address. -/
def IsListedUnder (store : Store) (settings : Settings) (symbol : Symbol) (address value : Int) :
    Prop :=
  if 0x8000 ≤ address then
    ∃ segmentId segment start offset, store.LiesIn symbol segmentId segment ∧
      Segment.IsPlacedAt segment start offset ∧
      value = address - start + offset - settings.base ∧ 0 ≤ value
  else value = address

/-- The last address that is listed with a value: with ranges, that of a symbol of more than one
byte, and else none. -/
def EndsAt (settings : Settings) (symbol : Symbol) (value : Int) (last : Option Int) : Prop :=
  if settings.ranges then
    symbol.get? "size" = none ∧ last = none ∨
      ∃ size, symbol.Reads .decimal "size" size ∧
        last = if 1 < size then some (value + size - 1) else none
  else last = none

/-- The line that a listing has for a symbol. -/
def HasLine (store : Store) (settings : Settings) (symbol : Symbol) (line : String) : Prop :=
  ∃ address value last, symbol.Reads .hexadecimal "val" address ∧
    store.IsListedUnder settings symbol address value ∧ EndsAt settings symbol value last ∧
    line = tagAt settings.ram address ++ ":" ++ Numeral.hex value ++
      (match last with | some last => "-" ++ Numeral.hex last | none => "") ++ ":" ++
      (symbol.get? "name").getD "" ++
      (match symbol.get? "comment" with | some comment => ":" ++ comment | none => "")

/-- What a listing needs of a label symbol: an address; in the ROM window a segment of the image
that gives it an offset of at least the base offset; and, with ranges, no size or a number. -/
def IsListable (store : Store) (settings : Settings) (symbol : Symbol) : Prop :=
  ∃ address, symbol.Reads .hexadecimal "val" address ∧
    (0x8000 ≤ address → ∃ segmentId segment start offset, store.LiesIn symbol segmentId segment ∧
      Segment.IsPlacedAt segment start offset ∧ 0 ≤ address - start + offset - settings.base) ∧
    (settings.ranges = true → symbol.get? "size" = none ∨ ∃ size, symbol.Reads .decimal "size" size)

theorem listedOffset_eq_ok_iff {address value : Int} {placement : Option Placement} :
    listedOffset settings symbol address placement = .ok value ↔
      ∃ found, placement = some found ∧ value = found.toImage address - settings.base ∧
        0 ≤ value := by
  unfold listedOffset
  rcases placement with _ | found
  · simp
  · by_cases hneg : found.toImage address - settings.base < 0
    · simp only [if_pos hneg, reduceCtorEq, Option.some.injEq, false_iff]
      rintro ⟨_, rfl, rfl, hle⟩
      omega
    · simp only [if_neg hneg, Except.ok.injEq, Option.some.injEq]
      constructor
      · rintro rfl
        exact ⟨found, rfl, rfl, by omega⟩
      · rintro ⟨_, rfl, rfl, -⟩
        rfl

/-- **The value of a label** is read off its address and its segment. -/
theorem outcome_listedValue_eq_ok_iff {address value : Int} :
    (store.listedValue settings symbol address).outcome = .ok value ↔
      store.IsListedUnder settings symbol address value := by
  unfold listedValue IsListedUnder
  by_cases hrom : 0x8000 ≤ address
  · rw [if_pos (Region.ofAddress_eq_prgRom_iff.2 hrom), if_pos hrom,
      Logged.outcome_bind_eq_ok_iff]
    constructor
    · rintro ⟨placement, hplace, hvalue⟩
      obtain ⟨found, rfl, rfl, hle⟩ := listedOffset_eq_ok_iff.1 hvalue
      obtain ⟨segment, hlies, hplaced⟩ := outcome_place_eq_ok_some_iff.1 hplace
      exact ⟨_, segment, _, _, hlies, hplaced, rfl, hle⟩
    · rintro ⟨segmentId, segment, start, offset, hlies, hplaced, rfl, hle⟩
      refine ⟨some ⟨start, offset, segmentId⟩,
        outcome_place_eq_ok_some_iff.2 ⟨segment, hlies, hplaced⟩, ?_⟩
      exact listedOffset_eq_ok_iff.2 ⟨⟨start, offset, segmentId⟩, rfl, rfl, hle⟩
  · rw [if_neg fun h => hrom (Region.ofAddress_eq_prgRom_iff.1 h), if_neg hrom]
    simp [eq_comm]

theorem lastAddress_eq_ok_iff {value : Int} {last : Option Int} :
    lastAddress settings symbol value = .ok last ↔ EndsAt settings symbol value last := by
  unfold lastAddress EndsAt Symbol.size
  split
  · simp only [bind_eq_ok_iff, Option.exists, Entry.decimalIfPresent_eq_ok_none_iff,
      Entry.decimalIfPresent_eq_ok_some_iff, pure_eq_ok_iff, eq_comm (b := last)]
  · simp [eq_comm]

theorem isLabel_eq_true_iff : Symbol.isLabel symbol = true ↔ symbol.get? "type" = some "lab" := by
  rw [Symbol.isLabel, beq_iff_eq, Symbol.type]

theorem isLabel_eq_false_iff : Symbol.isLabel symbol = false ↔ symbol.get? "type" ≠ some "lab" := by
  rw [← Bool.not_eq_true, isLabel_eq_true_iff]

/-- **Which label a symbol becomes**: none, unless it is of type `lab`, and then the one with its
value, its last address, its name and its comment. -/
theorem outcome_label_eq_ok_some_iff {label : Label} :
    (store.label settings symbol).outcome = .ok (some label) ↔
      symbol.get? "type" = some "lab" ∧
        ∃ address value last, symbol.Reads .hexadecimal "val" address ∧
          store.IsListedUnder settings symbol address value ∧ EndsAt settings symbol value last ∧
          label = {
            region := Region.ofAddress address settings.ram
            value
            name := Symbol.name symbol
            last
            comment := Symbol.comment symbol
            symbolId := some symbol.id } := by
  unfold Store.label
  by_cases hlabel : Symbol.isLabel symbol = true
  · have htype := isLabel_eq_true_iff.1 hlabel
    simp only [if_pos hlabel, htype, true_and, Symbol.value, Logged.outcome_bind_eq_ok_iff,
      Logged.outcome_liftM, Logged.outcome_pure, Entry.number_eq_ok_iff_reads,
      outcome_listedValue_eq_ok_iff, lastAddress_eq_ok_iff, Except.ok.injEq, Option.some.injEq]
    constructor
    · rintro ⟨address, haddress, value, hvalue, last, hlast, rfl⟩
      exact ⟨address, value, last, haddress, hvalue, hlast, rfl⟩
    · rintro ⟨address, value, last, haddress, hvalue, hlast, rfl⟩
      exact ⟨address, haddress, value, hvalue, last, hlast, rfl⟩
  · have htype := isLabel_eq_true_iff.not.1 hlabel
    rw [if_neg hlabel]
    simp [htype, Except.map]

/-- A symbol of another type becomes no label, whatever its fields. -/
theorem outcome_label_of_not_isLabel (store : Store) (settings : Settings)
    (h : Symbol.isLabel symbol = false) : (store.label settings symbol).outcome = .ok none := by
  unfold Store.label
  simp [h, Except.map]

/-- A symbol of type `lab` becomes a label or it fails. -/
theorem outcome_label_ne_ok_none (store : Store) (settings : Settings)
    (h : Symbol.isLabel symbol = true) : (store.label settings symbol).outcome ≠ .ok none := by
  unfold Store.label
  rw [if_pos h]
  intro hnone
  simp only [Logged.outcome_bind_eq_ok_iff, Logged.outcome_pure, Except.ok.injEq, reduceCtorEq,
    and_false, exists_false] at hnone

/-- **From one symbol to a list**: all labels of a list of symbols are those of its label symbols,
one for each, in order. -/
theorem outcome_labelsOf_eq_ok_iff {symbols : List Symbol} {labels : List Label} :
    (store.labelsOf settings symbols).outcome = .ok labels ↔
      List.Forall₂ (fun symbol label => (store.label settings symbol).outcome = .ok (some label))
        (symbols.filter Symbol.isLabel) labels := by
  induction symbols generalizing labels with
  | nil => simp [labelsOf, eq_comm]
  | cons symbol symbols ih =>
    simp only [labelsOf_cons, Logged.outcome_bind_eq_ok_iff, Logged.outcome_pure, Except.ok.injEq, ih]
    cases hlabel : Symbol.isLabel symbol with
    | false =>
      rw [List.filter_cons_of_neg (by simp [hlabel])]
      constructor
      · rintro ⟨label, hok, rest, hrest, rfl⟩
        rw [outcome_label_of_not_isLabel store settings hlabel, Except.ok.injEq] at hok
        subst hok
        exact hrest
      · intro hrest
        exact ⟨none, outcome_label_of_not_isLabel store settings hlabel, labels, hrest, rfl⟩
    | true =>
      rw [List.filter_cons_of_pos hlabel, List.forall₂_cons_left_iff]
      constructor
      · rintro ⟨label, hok, rest, hrest, rfl⟩
        cases label with
        | none => exact absurd hok (outcome_label_ne_ok_none store settings hlabel)
        | some label => exact ⟨label, rest, hok, hrest, rfl⟩
      · rintro ⟨label, rest, hok, hrest, rfl⟩
        exact ⟨some label, hok, rest, hrest, rfl⟩

theorem outcome_listing_eq_ok_iff {listing : Listing} :
    (store.listing settings).outcome = .ok listing ↔
      (store.labelsOf settings store.symbols).outcome = .ok listing.labels ∧
        listing.symbolsRead = store.count (.table .symbol) ∧ listing.banner = store.banner := by
  obtain ⟨labels, symbolsRead, banner⟩ := listing
  simp only [Store.listing, Store.labels, Logged.outcome_bind_eq_ok_iff, Logged.outcome_pure,
    Except.ok.injEq, Listing.mk.injEq]
  constructor
  · rintro ⟨_, hlabels, rfl, rfl, rfl⟩
    exact ⟨hlabels, rfl, rfl⟩
  · rintro ⟨hlabels, rfl, rfl⟩
    exact ⟨labels, hlabels, rfl, rfl, rfl⟩

/-! ### Lines -/

theorem getD_nonEmpty? (text : Option String) : (nonEmpty? text).getD "" = text.getD "" := by
  cases text with
  | none => rfl
  | some text => by_cases h : text = "" <;> simp [nonEmpty?, Option.filter, h]

/-- The line of the label that a symbol becomes. -/
theorem hasLine_of_label {label : Label}
    (h : (store.label settings symbol).outcome = .ok (some label)) :
    store.HasLine settings symbol label.line := by
  obtain ⟨-, address, value, last, haddress, hvalue, hlast, rfl⟩ :=
    outcome_label_eq_ok_some_iff.1 h
  refine ⟨address, value, last, haddress, hvalue, hlast, ?_⟩
  simp only [Label.line, Label.address, Label.ending, Region.tag_ofAddress, Symbol.name,
    getD_nonEmpty?, Symbol.comment]
  cases last <;> cases symbol.get? "comment" <;> simp [String.append_assoc]

/-- The symbols that are listed are counted. -/
theorem count_symbol (store : Store) : store.count (.table .symbol) = store.symbols.length := by
  rw [symbols, List.length_map, Std.ExtTreeMap.length_toList]
  rfl

/-- **A symbol of type `lab` becomes a label exactly if it is listable.** -/
theorem exists_label_iff (htype : symbol.get? "type" = some "lab") :
    (∃ label, (store.label settings symbol).outcome = .ok (some label)) ↔
      store.IsListable settings symbol := by
  simp only [outcome_label_eq_ok_some_iff, htype, true_and]
  constructor
  · rintro ⟨_, address, value, last, haddress, hvalue, hlast, rfl⟩
    refine ⟨address, haddress, fun hrom => ?_, fun hranges => ?_⟩
    · rw [IsListedUnder, if_pos hrom] at hvalue
      obtain ⟨segmentId, segment, start, offset, hlies, hplaced, rfl, hle⟩ := hvalue
      exact ⟨segmentId, segment, start, offset, hlies, hplaced, hle⟩
    · rw [EndsAt, if_pos hranges] at hlast
      rcases hlast with ⟨hnone, -⟩ | ⟨size, hsize, -⟩
      · exact Or.inl hnone
      · exact Or.inr ⟨size, hsize⟩
  · rintro ⟨address, haddress, hrom, hranges⟩
    obtain ⟨value, hvalue⟩ : ∃ value, store.IsListedUnder settings symbol address value := by
      unfold IsListedUnder
      split
      · rename_i h
        obtain ⟨segmentId, segment, start, offset, hlies, hplaced, hle⟩ := hrom h
        exact ⟨_, segmentId, segment, start, offset, hlies, hplaced, rfl, hle⟩
      · exact ⟨address, rfl⟩
    obtain ⟨last, hlast⟩ : ∃ last, EndsAt settings symbol value last := by
      unfold EndsAt
      split
      · rename_i h
        rcases hranges h with hnone | ⟨size, hsize⟩
        · exact ⟨none, Or.inl ⟨hnone, rfl⟩⟩
        · exact ⟨_, Or.inr ⟨size, hsize, rfl⟩⟩
      · exact ⟨none, rfl⟩
    exact ⟨_, address, value, last, haddress, hvalue, hlast, rfl⟩

/-- A symbol does not fail if it is no label or can be listed, and only then. -/
theorem exists_outcome_label_iff :
    (∃ label, (store.label settings symbol).outcome = .ok label) ↔
      (symbol.get? "type" = some "lab" → store.IsListable settings symbol) := by
  cases hlabel : Symbol.isLabel symbol with
  | false =>
    rw [← isLabel_eq_true_iff, hlabel]
    simp [outcome_label_of_not_isLabel store settings hlabel]
  | true =>
    have hlab := isLabel_eq_true_iff.1 hlabel
    rw [imp_iff_right hlab, ← exists_label_iff hlab]
    constructor
    · rintro ⟨_ | label, h⟩
      · exact absurd h (outcome_label_ne_ok_none store settings hlabel)
      · exact ⟨label, h⟩
    · rintro ⟨label, h⟩
      exact ⟨some label, h⟩

/-- Symbols that are found under their own ids are listed by ascending id. -/
theorem pairwise_symbols (h : ∀ id symbol, store.find? .symbol id = some symbol → symbol.id = id) :
    store.symbols.Pairwise fun a b => a.id < b.id := by
  have hid : ∀ pair ∈ store.symbolTable.toList, pair.2.id = pair.1 := fun pair hpair =>
    h pair.1 pair.2 (Std.ExtTreeMap.mem_toList_iff_getElem?_eq_some.1 hpair)
  rw [symbols, List.pairwise_map]
  refine Std.ExtTreeMap.ordered_keys_toList.imp_of_mem fun {a b} ha hb hlt => ?_
  rw [hid a ha, hid b hb]
  exact Std.compare_eq_lt.1 hlt

/-- Two lists of symbols by ascending id are equal if they have the same members. -/
theorem eq_of_pairwise_id {as bs : List Symbol} (ha : as.Pairwise fun a b => a.id < b.id)
    (hb : bs.Pairwise fun a b => a.id < b.id) (h : ∀ symbol, symbol ∈ as ↔ symbol ∈ bs) :
    as = bs := by
  have hnodup : ∀ {symbols : List Symbol}, symbols.Pairwise (fun a b => a.id < b.id) →
      symbols.Nodup := fun hsorted => hsorted.imp fun hlt => ne_of_apply_ne Entry.id hlt.ne
  refine List.Perm.eq_of_pairwise (fun a b _ _ hab hba => ?_) ha hb
    ((List.perm_ext_iff_of_nodup (hnodup ha) (hnodup hb)).2 h)
  omega

theorem exists_forall₂_iff {α β : Type} {R : α → β → Prop} {as : List α} :
    (∃ bs, List.Forall₂ R as bs) ↔ ∀ a ∈ as, ∃ b, R a b := by
  induction as with
  | nil => simp
  | cons a as ih =>
    rw [List.forall_mem_cons, ← ih]
    constructor
    · rintro ⟨_, hab⟩
      obtain ⟨b, bs, hb, hbs, rfl⟩ := List.forall₂_cons_left_iff.1 hab
      exact ⟨⟨b, hb⟩, bs, hbs⟩
    · rintro ⟨⟨b, hb⟩, bs, hbs⟩
      exact ⟨b :: bs, .cons hb hbs⟩

/-- **When a listing is made**: if every label symbol is listable, and only then. -/
theorem exists_listing_iff :
    (∃ listing, (store.listing settings).outcome = .ok listing) ↔
      ∀ symbol ∈ store.symbols.filter Symbol.isLabel, store.IsListable settings symbol := by
  calc (∃ listing, (store.listing settings).outcome = .ok listing)
      ↔ ∃ labels, (store.labelsOf settings store.symbols).outcome = .ok labels := by
        simp only [outcome_listing_eq_ok_iff]
        exact ⟨fun ⟨listing, h, _⟩ => ⟨_, h⟩, fun ⟨labels, h⟩ => ⟨⟨labels, _, _⟩, h, rfl, rfl⟩⟩
    _ ↔ ∀ symbol ∈ store.symbols.filter Symbol.isLabel,
          ∃ label, (store.label settings symbol).outcome = .ok (some label) := by
        simp only [outcome_labelsOf_eq_ok_iff, exists_forall₂_iff]
    _ ↔ ∀ symbol ∈ store.symbols.filter Symbol.isLabel, store.IsListable settings symbol :=
        forall₂_congr fun _ hsymbol =>
          exists_label_iff (isLabel_eq_true_iff.1 (List.mem_filter.1 hsymbol).2)

/-- **What a conversion makes of a store**, whatever records it was handed.  A listing is made
exactly if every symbol of type `lab` is listable; its lines are then those of these symbols, one
for each, by strictly ascending id. -/
theorem listing_afterAll (calls : List Call) (settings : Settings) :
    ((∃ listing, ((empty.afterAll calls).listing settings).outcome = .ok listing) ↔
      ∀ id symbol, (empty.afterAll calls).find? .symbol id = some symbol →
        symbol.get? "type" = some "lab" → (empty.afterAll calls).IsListable settings symbol) ∧
    ∀ listing, ((empty.afterAll calls).listing settings).outcome = .ok listing →
      ∃ symbols : List Symbol,
        (∀ symbol, symbol ∈ symbols ↔
          (∃ id, (empty.afterAll calls).find? .symbol id = some symbol) ∧
            symbol.get? "type" = some "lab") ∧
        (symbols.Pairwise fun a b => a.id < b.id) ∧
        List.Forall₂ ((empty.afterAll calls).HasLine settings) symbols listing.lines := by
  generalize hstore : empty.afterAll calls = store
  have hids : ∀ id symbol, store.find? .symbol id = some symbol → symbol.id = id := by
    rintro id symbol h
    rw [← hstore] at h
    exact id_of_find?_afterAll h
  have hmem : ∀ symbol, symbol ∈ store.symbols.filter Symbol.isLabel ↔
      (∃ id, store.find? .symbol id = some symbol) ∧ symbol.get? "type" = some "lab" := by
    intro symbol
    rw [List.mem_filter, mem_symbols, Symbol.isLabel, beq_iff_eq, Symbol.type]
  refine ⟨?_, fun listing h => ⟨store.symbols.filter Symbol.isLabel, hmem,
    (pairwise_symbols hids).filter _, ?_⟩⟩
  · rw [exists_listing_iff]
    constructor
    · intro h id symbol hid htype
      exact h symbol ((hmem symbol).2 ⟨⟨id, hid⟩, htype⟩)
    · intro h symbol hsymbol
      obtain ⟨⟨id, hid⟩, htype⟩ := (hmem symbol).1 hsymbol
      exact h id symbol hid htype
  · have hlabels := outcome_labelsOf_eq_ok_iff.1 (outcome_listing_eq_ok_iff.1 h).1
    rw [Listing.lines, List.forall₂_map_right_iff]
    exact hlabels.imp fun _ _ => hasLine_of_label

end Store
end DebugLabels
