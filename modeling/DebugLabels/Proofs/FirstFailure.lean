import DebugLabels.Proofs.BrokenLinks

/-!
# Which failure a listing reports

A listing fails if and only if a symbol of the store fails to become a label, and then it fails as
the one with the smallest id does (`Store.IsFirstFailure`).

`Store.LabelBreaks` says what can be wrong with a label symbol: its address cannot be read; it is in
the ROM window, and a link to its segment is broken or it falls outside the image; or its size
cannot be read. Where in memory it is decides which of these there are (`Store.LabelFailures`).
-/

namespace DebugLabels

namespace Entry

variable {table : Table} {entry : Entry table} {radix : Radix} {key : String}

/-- A field that stands for a number is not at fault. -/
theorem Reads.not_numberFault {n : Int} {cause : Malformation} (h : entry.Reads radix key n) :
    ¬ entry.NumberFault radix key cause := by
  obtain ⟨raw, hraw, hread⟩ := h
  rintro (hmissing | ⟨raw', hraw', hnone, -⟩)
  · simp [hraw] at hmissing
  · obtain rfl := Option.some.inj (hraw.symm.trans hraw')
    simp [hread] at hnone

/-- A fault of a field is a malformed record, if the id and the line of the entry can be written. -/
theorem NumberFault.malformed_eq {cause : Malformation} (h : entry.NumberFault radix key cause)
    (hid : Numeral.IsWritable entry.id) (hplace : ∀ place ∈ entry.location, place.IsWritable) :
    entry.malformed cause = .error (.malformed cause entry.location) :=
  Failure.ofError_of_isWritable ((isWritable_malformed_iff hid h.numbers_eq).2 hplace)

end Entry

namespace Store

/-- Why a label at an address of the ROM window falls outside the image: its segment is not in the
image, or its offset there, less the base offset, is negative. -/
inductive FallsOutside (store : Store) (settings : Settings) (symbol : Symbol) (address : Int) :
    ImageGap → Prop
  | notInImage {segmentId : Int} {segment : Segment}
      (hsegment : store.LiesIn symbol segmentId segment) (h : segment.get? "ooffs" = none) :
    FallsOutside store settings symbol address .segmentNotInImage
  | negative {segmentId start offset : Int} {segment : Segment}
      (hsegment : store.LiesIn symbol segmentId segment)
      (hplaced : Segment.IsPlacedAt segment start offset)
      (h : address - start + offset - settings.base < 0) :
    FallsOutside store settings symbol address
      (.negativeOffset (address - start + offset - settings.base) segmentId settings.base)

/-- What is wrong with a label symbol that cannot be listed, in the order in which it is looked
at. -/
inductive LabelBreaks (store : Store) (settings : Settings) (symbol : Symbol) : Error → Prop
  | value {cause : Malformation} (h : symbol.NumberFault .hexadecimal "val" cause) :
    LabelBreaks store settings symbol (.malformed cause symbol.location)
  | place {address : Int} {e : Error} (haddress : symbol.Reads .hexadecimal "val" address)
      (hrom : 0x8000 ≤ address) (h : store.Breaks symbol e) : LabelBreaks store settings symbol e
  | outside {address : Int} {gap : ImageGap} (haddress : symbol.Reads .hexadecimal "val" address)
      (hrom : 0x8000 ≤ address) (h : store.FallsOutside settings symbol address gap) :
    LabelBreaks store settings symbol (.outsideImage (Symbol.name symbol) address gap)
  | size {address value : Int} {cause : Malformation}
      (haddress : symbol.Reads .hexadecimal "val" address)
      (hvalue : store.IsListedUnder settings symbol address value)
      (hranges : settings.ranges = true) (h : symbol.Unreadable .decimal "size" cause) :
    LabelBreaks store settings symbol (.malformed cause symbol.location)

variable {store : Store} {settings : Settings} {symbol : Symbol} {failure : Failure}

/-- A label without a place is outside the image, and so is one with a negative offset. -/
theorem listedOffset_eq_error_iff {address : Int} {placement : Option Placement} :
    listedOffset settings symbol address placement = .error failure ↔
      placement = none ∧ failure = outsideImage symbol address .segmentNotInImage ∨
        ∃ start offset segmentId, placement = some ⟨start, offset, segmentId⟩ ∧
          address - start + offset - settings.base < 0 ∧
          failure = outsideImage symbol address (.negativeOffset
            (address - start + offset - settings.base) segmentId settings.base) := by
  unfold listedOffset Placement.toImage
  rcases placement with _ | ⟨start, offset, segmentId⟩
  · simp [eq_comm]
  · simp only [reduceCtorEq, false_and, false_or, Option.some.injEq, Placement.mk.injEq]
    constructor
    · intro h
      split at h
      · rename_i hneg
        exact ⟨start, offset, segmentId, ⟨rfl, rfl, rfl⟩, hneg, (Except.error.inj h).symm⟩
      · cases h
    · rintro ⟨_, _, _, ⟨rfl, rfl, rfl⟩, hneg, hfailure⟩
      rw [if_pos hneg, hfailure]

/-- **How a label has no value**: it is in the ROM window, and a link to its segment is broken or it
falls outside the image. -/
theorem outcome_listedValue_eq_error_iff {address : Int} :
    (store.listedValue settings symbol address).outcome = .error failure ↔
      0x8000 ≤ address ∧ ((∃ e, store.Breaks symbol e ∧ failure = .ofError e) ∨
        ∃ gap, store.FallsOutside settings symbol address gap ∧
          failure = outsideImage symbol address gap) := by
  unfold listedValue
  by_cases hrom : 0x8000 ≤ address
  · rw [if_pos (Region.ofAddress_eq_prgRom_iff.2 hrom), Logged.outcome_bind_eq_error_iff,
      outcome_place_eq_error_iff, and_iff_right hrom]
    simp only [Logged.outcome_liftM, listedOffset_eq_error_iff]
    refine or_congr_right ⟨?_, ?_⟩
    · rintro ⟨_, hplace, ⟨rfl, hfailure⟩ | ⟨start, offset, segmentId, rfl, hneg, hfailure⟩⟩
      · obtain ⟨segmentId, segment, hlies, himage⟩ := outcome_place_eq_ok_none_iff.1 hplace
        exact ⟨_, .notInImage hlies himage, hfailure⟩
      · obtain ⟨segment, hlies, hplaced⟩ := outcome_place_eq_ok_some_iff.1 hplace
        exact ⟨_, .negative hlies hplaced hneg, hfailure⟩
    · rintro ⟨gap, houtside, hfailure⟩
      cases houtside with
      | notInImage hlies himage =>
        have hplace := outcome_place_eq_ok_none_iff.2 ⟨_, _, hlies, himage⟩
        exact ⟨none, hplace, Or.inl ⟨rfl, hfailure⟩⟩
      | @negative segmentId start offset segment hlies hplaced hneg =>
        have hplace : (store.place symbol).outcome = .ok (some ⟨start, offset, segmentId⟩) :=
          outcome_place_eq_ok_some_iff.2 ⟨segment, hlies, hplaced⟩
        exact ⟨_, hplace, Or.inr ⟨start, offset, segmentId, rfl, hneg, hfailure⟩⟩
  · rw [if_neg fun h => hrom (Region.ofAddress_eq_prgRom_iff.1 h)]
    simp [hrom]

theorem lastAddress_eq_error_iff {value : Int} :
    lastAddress settings symbol value = .error failure ↔ settings.ranges = true ∧
      ∃ cause, symbol.Unreadable .decimal "size" cause ∧ failure = symbol.malformed cause := by
  unfold lastAddress Symbol.size
  split
  · rename_i hranges
    simp only [bind_eq_error_iff, Entry.decimalIfPresent_eq_error_iff, Option.exists,
      pure_ne_error, and_false, exists_false, or_false, hranges, true_and]
  · rename_i hranges
    simp [hranges]

/-- **How a symbol fails to be a label**: it is of type `lab`, and something is wrong with it. -/
theorem outcome_label_eq_error_iff : (store.label settings symbol).outcome = .error failure ↔
    symbol.get? "type" = some "lab" ∧
      ∃ e, store.LabelBreaks settings symbol e ∧ failure = .ofError e := by
  unfold label
  by_cases hlabel : Symbol.isLabel symbol = true
  · have htype := isLabel_eq_true_iff.1 hlabel
    simp only [if_pos hlabel, htype, true_and, Symbol.value, Logged.outcome_bind_eq_error_iff,
      Logged.outcome_liftM, Logged.outcome_pure, Entry.number_eq_error_iff,
      Entry.number_eq_ok_iff_reads, outcome_listedValue_eq_error_iff, outcome_listedValue_eq_ok_iff,
      lastAddress_eq_error_iff, reduceCtorEq, and_false, exists_false, or_false]
    constructor
    · rintro (⟨cause, h, hfailure⟩ | ⟨address, haddress, ⟨hrom, ⟨e, h, hfailure⟩ |
        ⟨gap, h, hfailure⟩⟩ | ⟨value, hvalue, hranges, cause, h, hfailure⟩⟩)
      · exact ⟨_, .value h, hfailure⟩
      · exact ⟨_, .place haddress hrom h, hfailure⟩
      · exact ⟨_, .outside haddress hrom h, hfailure⟩
      · exact ⟨_, .size haddress hvalue hranges h, hfailure⟩
    · rintro ⟨e, hbreaks, hfailure⟩
      cases hbreaks with
      | value h => exact Or.inl ⟨_, h, hfailure⟩
      | place haddress hrom h =>
        exact Or.inr ⟨_, haddress, Or.inl ⟨hrom, Or.inl ⟨_, h, hfailure⟩⟩⟩
      | outside haddress hrom h =>
        exact Or.inr ⟨_, haddress, Or.inl ⟨hrom, Or.inr ⟨_, h, hfailure⟩⟩⟩
      | size haddress hvalue hranges h =>
        exact Or.inr ⟨_, haddress, Or.inr ⟨_, hvalue, hranges, _, h, hfailure⟩⟩
  · have htype := isLabel_eq_true_iff.not.1 hlabel
    rw [if_neg hlabel]
    simp [htype, Except.map]

/-! ### By region -/

/-- How a symbol fails to be a label, by its type and by where in memory it is, if a fault of one of
its own fields fails as `malformed` says. -/
structure LabelFailures (store : Store) (settings : Settings) (symbol : Symbol)
    (malformed : Malformation → Failure) : Prop where
  /-- A symbol of another type does not fail, whatever its fields. -/
  otherType : symbol.get? "type" ≠ some "lab" → (store.label settings symbol).outcome = .ok none
  /-- A label without an address is malformed. -/
  value : symbol.get? "type" = some "lab" → ∀ cause, symbol.NumberFault .hexadecimal "val" cause →
    (store.label settings symbol).outcome = .error (malformed cause)
  /-- Below the ROM window only an unreadable size fails, and only if ranges are asked for. -/
  belowRom : symbol.get? "type" = some "lab" → ∀ address,
    symbol.Reads .hexadecimal "val" address → address < 0x8000 →
    ∀ failure, (store.label settings symbol).outcome = .error failure ↔ settings.ranges = true ∧
      ∃ cause, symbol.Unreadable .decimal "size" cause ∧ failure = malformed cause
  /-- The error about falling outside the image is that of a label in the ROM window that does, if
  it can be worded. -/
  outside : ∀ name address gap,
    (store.label settings symbol).outcome = .error (.error (.outsideImage name address gap)) ↔
      symbol.get? "type" = some "lab" ∧ name = Symbol.name symbol ∧
        symbol.Reads .hexadecimal "val" address ∧ 0x8000 ≤ address ∧
        store.FallsOutside settings symbol address gap ∧ ∀ n ∈ gap.numbers, Numeral.IsWritable n

/-- A broken link is another sort of error than falling outside the image. -/
theorem Breaks.category_ne {e : Error} (h : store.Breaks symbol e) :
    e.category ≠ .outsideImage := by
  cases h with
  | scopeId h => cases h <;> simp [Error.category, Error.malformed]
  | _ => simp [Error.category, Error.malformed]

theorem outcome_label_eq_outsideImage_iff {name : Option String} {address : Int} {gap : ImageGap} :
    (store.label settings symbol).outcome = .error (.error (.outsideImage name address gap)) ↔
      symbol.get? "type" = some "lab" ∧ name = Symbol.name symbol ∧
        symbol.Reads .hexadecimal "val" address ∧ 0x8000 ≤ address ∧
        store.FallsOutside settings symbol address gap ∧
        ∀ n ∈ gap.numbers, Numeral.IsWritable n := by
  rw [outcome_label_eq_error_iff]
  refine and_congr_right fun _ => ⟨?_, ?_⟩
  · rintro ⟨e, hbreaks, hfailure⟩
    obtain ⟨rfl, hwritable⟩ := Failure.ofError_eq_error_iff.1 hfailure.symm
    cases hbreaks with
    | place _ _ h => exact absurd rfl h.category_ne
    | outside haddress hrom h => exact ⟨rfl, haddress, hrom, h, hwritable⟩
  · rintro ⟨rfl, haddress, hrom, h, hwritable⟩
    have hworded : (Error.outsideImage (Symbol.name symbol) address gap).IsWritable := hwritable
    exact ⟨_, .outside haddress hrom h, (Failure.ofError_of_isWritable hworded).symm⟩

/-- **How a symbol fails.** -/
theorem labelFailures (store : Store) (settings : Settings) (symbol : Symbol) :
    store.LabelFailures settings symbol symbol.malformed where
  otherType htype := outcome_label_of_not_isLabel store settings (isLabel_eq_false_iff.2 htype)
  value htype cause h := outcome_label_eq_error_iff.2 ⟨htype, _, .value h, rfl⟩
  belowRom htype address haddress hbelow failure := by
    rw [outcome_label_eq_error_iff, and_iff_right htype]
    constructor
    · rintro ⟨e, hbreaks, hfailure⟩
      cases hbreaks with
      | value h => exact absurd h haddress.not_numberFault
      | place haddress' hrom h =>
        obtain rfl := Entry.eq_of_reads haddress haddress'
        omega
      | outside haddress' hrom h =>
        obtain rfl := Entry.eq_of_reads haddress haddress'
        omega
      | size _ _ hranges h => exact ⟨hranges, _, h, hfailure⟩
    · rintro ⟨hranges, cause, h, rfl⟩
      have hvalue : store.IsListedUnder settings symbol address address := by
        rw [IsListedUnder, if_neg (by omega)]
      exact ⟨_, .size haddress hvalue hranges h, rfl⟩
  outside _ _ _ := outcome_label_eq_outsideImage_iff

/-- How a fault of a field fails may be said in another way, if it is the same failure. -/
theorem LabelFailures.congr {malformed malformed' : Malformation → Failure}
    (h : store.LabelFailures settings symbol malformed)
    (hvalue : ∀ cause, symbol.NumberFault .hexadecimal "val" cause →
      malformed cause = malformed' cause)
    (hsize : ∀ cause, symbol.Unreadable .decimal "size" cause →
      malformed cause = malformed' cause) :
    store.LabelFailures settings symbol malformed' where
  otherType := h.otherType
  value htype cause hfault := hvalue cause hfault ▸ h.value htype cause hfault
  belowRom htype address haddress hbelow failure := by
    rw [h.belowRom htype address haddress hbelow failure]
    refine and_congr_right fun _ => exists_congr fun cause => and_congr_right fun hfault => ?_
    rw [hsize cause hfault]
  outside := h.outside

/-- **A symbol whose id and line can be written** fails as a malformed record, if one of its own
fields is at fault. -/
theorem labelFailures_of_isWritable (store : Store) (settings : Settings)
    (hid : Numeral.IsWritable symbol.id) (hplace : ∀ place ∈ symbol.location, place.IsWritable) :
    store.LabelFailures settings symbol fun cause => .error (.malformed cause symbol.location) :=
  (labelFailures store settings symbol).congr (fun _ h => h.malformed_eq hid hplace)
    fun _ h => (Entry.NumberFault.unreadable h).malformed_eq hid hplace

/-! ### The first symbol that fails -/

/-- The symbol with the id fails, and no symbol with a smaller id does. -/
structure IsFirstFailure (store : Store) (settings : Settings) (id : Int) (failure : Failure) :
    Prop where
  fails : ∃ symbol, store.find? .symbol id = some symbol ∧
    (store.label settings symbol).outcome = .error failure
  least : ∀ other symbol, store.find? .symbol other = some symbol →
    ∀ failure', (store.label settings symbol).outcome = .error failure' → id ≤ other

/-- **A listing fails as the symbol with the smallest id does** of those that fail, if symbols are
found under their own ids. -/
theorem outcome_listing_eq_error_iff_isFirstFailure
    (hids : ∀ id symbol, store.find? .symbol id = some symbol → symbol.id = id) :
    (store.listing settings).outcome = .error failure ↔
      ∃ id, store.IsFirstFailure settings id failure := by
  have hsorted := pairwise_symbols hids
  rw [outcome_listing_eq_error_iff, outcome_labelsOf_eq_error_iff]
  constructor
  · rintro ⟨before, symbol, after, hsymbols, hbefore, hfails⟩
    obtain ⟨id, hid⟩ := mem_symbols.1 (show symbol ∈ store.symbols by simp [hsymbols])
    refine ⟨id, ⟨symbol, hid, hfails⟩, fun other symbol' hother failure' hfails' => ?_⟩
    obtain rfl := hids id symbol hid
    obtain rfl := hids other symbol' hother
    have hmem : symbol' ∈ before ++ symbol :: after := hsymbols ▸ mem_symbols.2 ⟨_, hother⟩
    rw [hsymbols, List.pairwise_append, List.pairwise_cons] at hsorted
    rcases List.mem_append.1 hmem with hmem | hmem
    · obtain ⟨label, hlabel⟩ := hbefore symbol' hmem
      simp [hlabel] at hfails'
    · rcases List.mem_cons.1 hmem with rfl | hmem
      · exact le_rfl
      · exact (hsorted.2.1.1 symbol' hmem).le
  · rintro ⟨id, ⟨symbol, hid, hfails⟩, hleast⟩
    obtain ⟨before, after, hsymbols⟩ := List.append_of_mem (mem_symbols.2 ⟨id, hid⟩)
    refine ⟨before, symbol, after, hsymbols, fun earlier hearlier => ?_, hfails⟩
    obtain ⟨other, hother⟩ :=
      mem_symbols.1 (show earlier ∈ store.symbols by simp [hsymbols, hearlier])
    have hlt : earlier.id < symbol.id := by
      rw [hsymbols, List.pairwise_append] at hsorted
      exact hsorted.2.2 earlier hearlier symbol List.mem_cons_self
    rw [hids id symbol hid, hids other earlier hother] at hlt
    cases houtcome : (store.label settings earlier).outcome with
    | ok label => exact ⟨label, rfl⟩
    | error failure' => exact absurd (hleast other earlier hother failure' houtcome) (not_le.2 hlt)

/-- A listing fails exactly if some symbol does. -/
theorem exists_outcome_listing_eq_error_iff :
    (∃ failure, (store.listing settings).outcome = .error failure) ↔
      ∃ id symbol failure, store.find? .symbol id = some symbol ∧
        (store.label settings symbol).outcome = .error failure := by
  constructor
  · rintro ⟨failure, h⟩
    obtain ⟨before, symbol, after, hsymbols, -, hfails⟩ :=
      outcome_labelsOf_eq_error_iff.1 (outcome_listing_eq_error_iff.1 h)
    obtain ⟨id, hid⟩ := mem_symbols.1 (show symbol ∈ store.symbols by simp [hsymbols])
    exact ⟨id, symbol, failure, hid, hfails⟩
  · rintro ⟨id, symbol, failure, hid, hfails⟩
    cases houtcome : (store.listing settings).outcome with
    | error failure' => exact ⟨failure', rfl⟩
    | ok listing =>
      have hlab : Symbol.isLabel symbol = true := by
        by_contra hno
        rw [outcome_label_of_not_isLabel store settings (Bool.not_eq_true _ ▸ hno)] at hfails
        cases hfails
      have hlabels := outcome_labelsOf_eq_ok_iff.1 (outcome_listing_eq_ok_iff.1 houtcome).1
      obtain ⟨label, hlabel⟩ := exists_forall₂_iff.1 ⟨_, hlabels⟩ symbol
        (List.mem_filter.2 ⟨mem_symbols.2 ⟨id, hid⟩, hlab⟩)
      simp [hfails] at hlabel

end Store
end DebugLabels
