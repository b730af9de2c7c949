import DebugLabels.Proofs.FirstFailure

/-!
# The errors of a conversion

What goes wrong in a text or in following a symbol is an error of its own, and a caller who listens
for errors about debug files and about resolving symbols hears of it (`Failure.IsConversionError`),
unless the error cannot be worded.

Ids and offsets are read in decimal and can be written.  So can the lines of a text, unless it has
more of them than a number can say.  That leaves the error about a negative offset in the ROM image:
it shows that offset and the base offset, which come from hexadecimal numerals of any length
(`Store.HasUnwritableOffset`).  It is the only one of a label that may have no words
(`Store.outcome_label_eq_digitLimit_iff`).

The main statement is `Store.outcome_listingOfText`: a conversion of a text fails with an error of
the conversion, unless the first symbol that fails has such an offset.
-/

namespace DebugLabels

namespace Failure

/-- The failure is an error about a debug file or about resolving a symbol. -/
def IsConversionError (failure : Failure) : Prop :=
  ∃ e, failure = .error e ∧ (e.category.isDebugFile = true ∨ e.category.isResolution = true)

theorem not_isConversionError_digitLimit : ¬ IsConversionError .digitLimit := by
  rintro ⟨e, h, -⟩
  simp at h

/-- An error about a debug file or a symbol stays one, or it cannot be worded. -/
theorem isConversionError_or_digitLimit {e : Error}
    (h : e.category.isDebugFile = true ∨ e.category.isResolution = true) :
    (ofError e).IsConversionError ∨ ofError e = .digitLimit := by
  by_cases hwritable : e.IsWritable
  · exact Or.inl ⟨e, ofError_of_isWritable hwritable, h⟩
  · exact Or.inr (ofError_eq_digitLimit_iff.2 hwritable)

end Failure

open Failure (IsConversionError)

namespace Store

variable {store : Store} {settings : Settings} {symbol : Symbol} {e : Error}

/-! ### The errors of a label -/

theorem Breaks.category (h : store.Breaks symbol e) :
    e.category.isDebugFile = true ∨ e.category.isResolution = true := by
  cases h with
  | scopeId h =>
    cases h with
    | scopeField | parentField | parentScopeField => exact Or.inl rfl
    | noScopeNoParent | parent | parentWithoutScope => exact Or.inr rfl
  | spanList | segmentField | place => exact Or.inl rfl
  | scope | span | segment => exact Or.inr rfl

/-- What is wrong with a label is wrong with the debug file, or with resolving the label. -/
theorem LabelBreaks.category (h : store.LabelBreaks settings symbol e) :
    e.category.isDebugFile = true ∨ e.category.isResolution = true := by
  cases h with
  | value | size => exact Or.inl rfl
  | place _ _ h => exact h.category
  | outside => exact Or.inr rfl

/-- A label symbol of the ROM window whose offset, less the base offset, is negative, where that
number or the base offset is too long to be written. -/
def HasUnwritableOffset (store : Store) (settings : Settings) (symbol : Symbol) : Prop :=
  symbol.get? "type" = some "lab" ∧
    ∃ address segmentId segment start offset, symbol.Reads .hexadecimal "val" address ∧
      0x8000 ≤ address ∧ store.LiesIn symbol segmentId segment ∧
      Segment.IsPlacedAt segment start offset ∧
      address - start + offset - settings.base < 0 ∧
      ¬ (Numeral.IsWritable (address - start + offset - settings.base) ∧
          Numeral.IsWritable settings.base)

/-- The error about a negative offset can be worded if the offset and the base can be written. -/
theorem isWritable_negativeOffset_iff {name : Option String} {address offset segmentId base : Int}
    (hsegment : Numeral.IsWritable segmentId) :
    (Error.outsideImage name address (.negativeOffset offset segmentId base)).IsWritable ↔
      Numeral.IsWritable offset ∧ Numeral.IsWritable base := by
  simp [Error.IsWritable, Error.numbers, ImageGap.numbers, hsegment]

/-- **When the error about a label cannot be worded**: of all that can be wrong, only an offset and
a base offset may be too long to be written. -/
theorem outcome_label_eq_digitLimit_iff (hids : store.HasWritableIds)
    (hlines : store.HasWritableLines) (hsymbol : symbol ∈ store.symbols) :
    (store.label settings symbol).outcome = .error .digitLimit ↔
      store.HasUnwritableOffset settings symbol := by
  obtain ⟨id, hfound⟩ := mem_symbols.1 hsymbol
  have hid := hids _ _ _ hfound
  have hplace := hlines _ _ _ hfound
  have hsegment : ∀ {segmentId segment}, store.LiesIn symbol segmentId segment →
      Numeral.IsWritable segmentId := by
    rintro _ _ ⟨_, _, _, _, _, _, _, _, hread, -⟩
    exact Entry.isWritable_of_reads hread
  rw [outcome_label_eq_error_iff, HasUnwritableOffset]
  refine and_congr_right fun _ => ?_
  simp only [eq_comm (a := Failure.digitLimit), Failure.ofError_eq_digitLimit_iff]
  constructor
  · rintro ⟨e, hbreaks, hlong⟩
    cases hbreaks with
    | value h => exact absurd ((Entry.isWritable_malformed_iff hid h.numbers_eq).2 hplace) hlong
    | size _ _ _ h =>
      exact absurd ((Entry.isWritable_malformed_iff hid h.numbers_eq).2 hplace) hlong
    | place _ _ h =>
      exact absurd ((h.isWritable_iff hids hid).2 (h.hasWritablePlace hlines hplace)) hlong
    | outside haddress hrom h =>
      cases h with
      | notInImage => exact absurd (fun n hn => absurd hn List.not_mem_nil) hlong
      | negative hlies hplaced hneg =>
        exact ⟨_, _, _, _, _, haddress, hrom, hlies, hplaced, hneg,
          (isWritable_negativeOffset_iff (hsegment hlies)).not.1 hlong⟩
  · rintro ⟨address, segmentId, segment, start, offset, haddress, hrom, hlies, hplaced, hneg, hlong⟩
    exact ⟨_, .outside haddress hrom (.negative hlies hplaced hneg),
      (isWritable_negativeOffset_iff (hsegment hlies)).not.2 hlong⟩

/-! ### From a symbol to a text -/

/-- A listing fails with what is wrong with one of its labels. -/
theorem exists_labelBreaks_of_listing {failure : Failure}
    (h : (store.listing settings).outcome = .error failure) :
    ∃ symbol ∈ store.symbols, ∃ e, store.LabelBreaks settings symbol e ∧ failure = .ofError e := by
  obtain ⟨before, symbol, after, hsymbols, -, hfails⟩ :=
    outcome_labelsOf_eq_error_iff.1 (outcome_listing_eq_error_iff.1 h)
  exact ⟨symbol, by simp [hsymbols], (outcome_label_eq_error_iff.1 hfails).2⟩

/-- A listing ends in the digit limit exactly if the first symbol that fails has an unwritable
offset. -/
theorem outcome_listing_eq_digitLimit_iff (hids : store.HasWritableIds)
    (hlines : store.HasWritableLines) :
    (store.listing settings).outcome = .error .digitLimit ↔
      ∃ before symbol after, store.symbols = before ++ symbol :: after ∧
        (∀ earlier ∈ before, earlier.get? "type" = some "lab" →
          store.IsListable settings earlier) ∧
        store.HasUnwritableOffset settings symbol := by
  rw [outcome_listing_eq_error_iff, outcome_labelsOf_eq_error_iff]
  simp only [exists_outcome_label_iff]
  refine exists_congr fun before => exists_congr fun symbol => exists_congr fun after =>
    and_congr_right fun hsymbols => and_congr_right fun _ => ?_
  exact outcome_label_eq_digitLimit_iff hids hlines (by simp [hsymbols])

/-- A conversion of a text: the text is read, and then the labels are listed. -/
def listingOfText (text file : String) (settings : Settings) : Logged Listing := do
  let store ← ofText text file
  store.listing settings

/-- **Every failure of a conversion is an error of the conversion, but for one.**  A text that
cannot be converted fails with an error about the debug file or about resolving a symbol; or else
the first label that cannot be listed has a negative offset in the ROM image, and the error that
says so would show a number too long to be written.  The second half presupposes that the number of
the lines of the text can be written, for errors show the numbers of lines. -/
theorem outcome_listingOfText (text file : String) (settings : Settings) :
    (∀ failure, (listingOfText text file settings).outcome = .error failure →
      failure.IsConversionError ∨ failure = .digitLimit) ∧
    (Numeral.IsWritable (Text.lines text.toList).length →
      ((listingOfText text file settings).outcome = .error .digitLimit ↔
        ∃ store, (ofText text file).outcome = .ok store ∧
          ∃ before symbol after, store.symbols = before ++ symbol :: after ∧
            (∀ earlier ∈ before, earlier.get? "type" = some "lab" →
              store.IsListable settings earlier) ∧
            store.HasUnwritableOffset settings symbol)) := by
  constructor
  · intro failure h
    rcases Logged.outcome_bind_eq_error_iff.1 h with h | ⟨store, hstore, h⟩
    · obtain ⟨_, -, e, habout, rfl⟩ := exists_isAboutRecord_of_ofText h
      exact Failure.isConversionError_or_digitLimit (Or.inl habout.category)
    · obtain ⟨_, -, e, hbreaks, rfl⟩ := exists_labelBreaks_of_listing h
      exact Failure.isConversionError_or_digitLimit hbreaks.category
  · intro hlines
    have hworded : (ofText text file).outcome ≠ .error .digitLimit := by
      intro h
      obtain ⟨record, hrecord, e, habout, hlimit⟩ := exists_isAboutRecord_of_ofText h
      refine Failure.ofError_eq_digitLimit_iff.1 hlimit.symm (habout.isWritable_iff.2 ?_)
      simpa using Location.isWritable_of_mem_ofText hlines hrecord
    rw [listingOfText, Logged.outcome_bind_eq_error_iff, or_iff_right hworded]
    refine exists_congr fun store => and_congr_right fun hread => ?_
    exact outcome_listing_eq_digitLimit_iff (hasWritableIds_ofText hread)
      (hasWritableLines_ofText hread hlines)

set_option maxRecDepth 2000 in
/-- A base offset with one digit more than can be written puts a label before the start of the
image, and no error of the conversion says so. -/
theorem listingOfText_past_digitLimit :
    (listingOfText
        ("seg\tid=0,start=8000,ooffs=16\nspan\tid=0,seg=0\nscope\tid=0,span=0\n" ++
          "sym\tid=0,name=a,type=lab,val=8000,scope=0\n")
        "a" { base := Nat.pow 10 Numeral.digitLimit }).outcome = .error .digitLimit ∧
      ¬ IsConversionError .digitLimit := by
  refine ⟨?_, Failure.not_isConversionError_digitLimit⟩
  have hpast := Numeral.not_isWritable_pow
  have hpow : ∀ limit, 2 ≤ limit → 16 < Nat.pow 10 limit := fun limit h =>
    calc 16 < Nat.pow 10 2 := by decide
      _ ≤ Nat.pow 10 limit := Nat.pow_le_pow_right (by decide) h
  have hlarge := hpow Numeral.digitLimit (by decide)
  -- the base offset is kept out of what is computed
  generalize Nat.pow 10 Numeral.digitLimit = base at hpast hlarge ⊢
  obtain ⟨store, symbol, hread, hsymbols, htype, hvalue, hfollow⟩ : ∃ store symbol,
      (ofText ("seg\tid=0,start=8000,ooffs=16\nspan\tid=0,seg=0\nscope\tid=0,span=0\n" ++
        "sym\tid=0,name=a,type=lab,val=8000,scope=0\n") "a").outcome = .ok store ∧
      store.symbols = [symbol] ∧ symbol.get? "type" = some "lab" ∧
      Symbol.value symbol = .ok 0x8000 ∧
      store.follow symbol = .ok ⟨0, 0, 0, some (0x8000, 16)⟩ := ⟨_, _, rfl, rfl, rfl, rfl, rfl⟩
  obtain ⟨segment, hlies, hplace⟩ := follow_eq_ok_iff.1 ⟨0, 0, hfollow⟩
  have hlines : Numeral.IsWritable (Text.lines
      ("seg\tid=0,start=8000,ooffs=16\nspan\tid=0,seg=0\nscope\tid=0,span=0\n" ++
        "sym\tid=0,name=a,type=lab,val=8000,scope=0\n").toList).length := by decide +kernel
  refine Logged.outcome_bind_eq_error_iff.2 (Or.inr ⟨store, hread, ?_⟩)
  refine (outcome_listing_eq_digitLimit_iff (hasWritableIds_ofText hread)
      (hasWritableLines_ofText hread hlines)).2
    ⟨[], symbol, [], hsymbols, by simp, htype, 0x8000, 0, segment, 0x8000, 16, ?_⟩
  exact ⟨Entry.number_eq_ok_iff_reads.1 hvalue, le_rfl, hlies, placeOf_eq_ok_some_iff.1 hplace,
    by dsimp only; omega, fun h => hpast h.2⟩

end Store
end DebugLabels
