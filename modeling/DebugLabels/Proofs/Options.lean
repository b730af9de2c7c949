import DebugLabels.Proofs.BaseOffset
import DebugLabels.Proofs.Failures

/-!
# What the options of a listing change

The expansion RAM and the ranges are matters of presentation.

Under another expansion RAM a listing is the same run with some regions renamed: the same notices,
the same failure, or the same labels but for the region of those in the RAM on the cartridge
(`listing_withRam`).  No step asks for more than whether an address is in the ROM window, and that
does not depend on the mode.

Ranges ask for the sizes of labels, and for nothing else.  So a listing with ranges is made exactly
if there is one without and all sizes that are there are numbers (`exists_listing_ranges_iff`), and
its labels are the ones without ranges with a last address put to those of more than one byte
(`Label.HasRange`).

`listing_options` puts both together.
-/

namespace DebugLabels

/-! ### The expansion RAM -/

namespace Region

/-- The region under another expansion RAM. -/
def withRam (ram : ExpansionRam) : Region → Region
  | saveRam | workRam => ofRam ram
  | region => region

theorem withRam_ofAddress (address : Int) (ram ram' : ExpansionRam) :
    (ofAddress address ram).withRam ram' = ofAddress address ram' := by
  unfold ofAddress
  split
  · rfl
  · split
    · rfl
    · split
      · cases ram <;> rfl
      · rfl

end Region

/-- The label under another expansion RAM. -/
def Label.withRam (ram : ExpansionRam) (label : Label) : Label :=
  { label with region := label.region.withRam ram }

/-- The listing under another expansion RAM. -/
def Listing.withRam (ram : ExpansionRam) (listing : Listing) : Listing :=
  { listing with labels := listing.labels.map (Label.withRam ram) }

/-- The label of a symbol, without ranges and with them: the second has a last address if the symbol
has more than one byte, and is the same otherwise. -/
structure Label.HasRange (symbol : Symbol) (plain ranged : Label) : Prop where
  region : ranged.region = plain.region
  value : ranged.value = plain.value
  name : ranged.name = plain.name
  comment : ranged.comment = plain.comment
  symbolId : ranged.symbolId = plain.symbolId
  last : plain.last = none
  exists_last_iff : (∃ last, ranged.last = some last) ↔
    ∃ size, symbol.Reads .decimal "size" size ∧ 1 < size
  size_of_last : ∀ last, ranged.last = some last →
    ranged.value < last ∧ symbol.Reads .decimal "size" (last - ranged.value + 1)

namespace Store

variable {store : Store} {settings : Settings} {symbol : Symbol}

theorem listedValue_withRam (store : Store) (settings : Settings) (ram : ExpansionRam)
    (symbol : Symbol) (address : Int) :
    store.listedValue { settings with ram } symbol address =
      store.listedValue settings symbol address := by
  simp only [listedValue, Region.ofAddress_eq_prgRom_iff]
  rfl

theorem label_withRam (store : Store) (settings : Settings) (ram : ExpansionRam)
    (symbol : Symbol) :
    store.label { settings with ram } symbol =
      Option.map (Label.withRam ram) <$> store.label settings symbol := by
  unfold label
  split
  · simp only [map_bind, map_pure, listedValue_withRam, Option.map_some, Label.withRam,
      Region.withRam_ofAddress]
    rfl
  · simp only [map_bind, map_pure, Option.map_none]

theorem labelsOf_withRam (store : Store) (settings : Settings) (ram : ExpansionRam)
    (symbols : List Symbol) :
    store.labelsOf { settings with ram } symbols =
      List.map (Label.withRam ram) <$> store.labelsOf settings symbols := by
  induction symbols with
  | nil => rfl
  | cons symbol symbols ih =>
    rw [labelsOf_cons, labelsOf_cons, ih, label_withRam]
    simp only [map_bind, map_pure, bind_map_left, List.map_append, Option.toList_map]

/-- **Another expansion RAM renames regions**, in a run that is the same otherwise. -/
theorem listing_withRam (store : Store) (settings : Settings) (ram : ExpansionRam) :
    store.listing { settings with ram } = Listing.withRam ram <$> store.listing settings := by
  unfold listing labels
  rw [labelsOf_withRam]
  simp only [map_bind, map_pure, bind_map_left]
  rfl

/-- The two lines of a symbol are the same, except that one at `$6000`–`$7FFF` has the tag of Work
RAM in the first and of Save RAM in the second. -/
def LinesByRam (symbol : Symbol) (work save : String) : Prop :=
  ∃ address, symbol.Reads .hexadecimal "val" address ∧
    if 0x6000 ≤ address ∧ address < 0x8000 then
      ∃ rest, work = "W:" ++ rest ∧ save = "S:" ++ rest
    else work = save

theorem linesByRam_of_label {label : Label}
    (h : (store.label { settings with ram := .work } symbol).outcome = .ok (some label)) :
    LinesByRam symbol label.line (label.withRam .save).line := by
  obtain ⟨-, address, value, last, haddress, -, -, rfl⟩ := outcome_label_eq_ok_some_iff.1 h
  refine ⟨address, haddress, ?_⟩
  simp only [Label.withRam, Region.withRam_ofAddress, Label.line, Label.address, Label.ending,
    Region.tag_ofAddress]
  by_cases hram : 0x6000 ≤ address ∧ address < 0x8000
  · have htag : ∀ ram : ExpansionRam, tagAt ram address = ram.tag := by
      intro ram
      rw [tagAt, if_neg (by omega), if_neg (by omega), if_pos hram.2]
    rw [if_pos hram, htag, htag]
    simp only [String.append_assoc]
    exact ⟨_, String.append_assoc.symm, String.append_assoc.symm⟩
  · have htag : tagAt .save address = tagAt .work address := by
      unfold tagAt
      split
      · rfl
      · split
        · rfl
        · rw [if_neg (by omega), if_neg (by omega)]
    rw [if_neg hram, htag]

/-- **The two listings under the two kinds of RAM**: they fail alike, and their lines differ in tags
of RAM on the cartridge alone. -/
theorem lines_byRam {work save : Listing}
    (hwork : (store.listing { settings with ram := .work }).outcome = .ok work)
    (hsave : (store.listing { settings with ram := .save }).outcome = .ok save) :
    List.Forall₂ (fun symbol lines => LinesByRam symbol lines.1 lines.2)
        (store.symbols.filter Symbol.isLabel) (work.lines.zip save.lines) ∧
      save.lines.length = work.lines.length ∧ save.symbolsRead = work.symbolsRead ∧
      save.banner = work.banner := by
  obtain rfl : Listing.withRam .save work = save := by
    have h := listing_withRam store { settings with ram := .work } .save
    rw [h, Logged.outcome_map, hwork] at hsave
    exact Except.ok.inj hsave
  refine ⟨?_, by simp [Listing.lines, Listing.withRam], rfl, rfl⟩
  have hlabels := outcome_labelsOf_eq_ok_iff.1 (outcome_listing_eq_ok_iff.1 hwork).1
  rw [Listing.lines, Listing.lines, Listing.withRam, List.map_map, List.zip_map',
    List.forall₂_map_right_iff]
  exact hlabels.imp fun _ _ => linesByRam_of_label

/-! ### Ranges -/

/-- A symbol is listable with ranges if it is listable and its size, if it has one, is a number. -/
theorem isListable_ranges_iff :
    store.IsListable { settings with ranges := true } symbol ↔
      store.IsListable { settings with ranges := false } symbol ∧
        (symbol.get? "size" = none ∨ ∃ size, symbol.Reads .decimal "size" size) := by
  simp only [IsListable, forall_const, Bool.false_eq_true, false_imp_iff, and_true]
  constructor
  · rintro ⟨address, haddress, hrom, hsize⟩
    exact ⟨⟨address, haddress, hrom⟩, hsize⟩
  · rintro ⟨⟨address, haddress, hrom⟩, hsize⟩
    exact ⟨address, haddress, hrom, hsize⟩

/-- **When there is a listing with ranges**: if there is one without, and the sizes of all label
symbols are absent or numbers. -/
theorem exists_listing_ranges_iff :
    (∃ ranged, (store.listing { settings with ranges := true }).outcome = .ok ranged) ↔
      (∃ plain, (store.listing { settings with ranges := false }).outcome = .ok plain) ∧
        ∀ symbol ∈ store.symbols.filter Symbol.isLabel,
          symbol.get? "size" = none ∨ ∃ size, symbol.Reads .decimal "size" size := by
  simp only [exists_listing_iff, isListable_ranges_iff, forall_and]

/-- With ranges, an address is the last one exactly if it is above the value and the size is the
number of bytes up to it. -/
theorem eq_some_iff_of_endsAt {value : Int} {last : Option Int}
    (h : EndsAt { settings with ranges := true } symbol value last) (final : Int) :
    last = some final ↔ value < final ∧ symbol.Reads .decimal "size" (final - value + 1) := by
  rcases h with ⟨hnone, rfl⟩ | ⟨size, hsize, rfl⟩
  · simp [Entry.Reads, hnone]
  · constructor
    · intro hfinal
      split at hfinal
      · obtain rfl := Option.some.inj hfinal
        refine ⟨by omega, ?_⟩
        rwa [show value + size - 1 - value + 1 = size by omega]
      · cases hfinal
    · rintro ⟨hlt, hread⟩
      have heq : size = final - value + 1 := Entry.eq_of_reads hsize hread
      rw [if_pos (by omega), heq, Option.some.injEq]
      omega

/-- **The label with a range** is the one without, but for its last address. -/
theorem hasRange_of_label {ranged : Label}
    (h : (store.label { settings with ranges := true } symbol).outcome = .ok (some ranged)) :
    (store.label { settings with ranges := false } symbol).outcome =
        .ok (some { ranged with last := none }) ∧
      Label.HasRange symbol { ranged with last := none } ranged := by
  obtain ⟨htype, address, value, last, haddress, hvalue, hlast, rfl⟩ :=
    outcome_label_eq_ok_some_iff.1 h
  refine ⟨outcome_label_eq_ok_some_iff.2 ⟨htype, address, value, none, haddress, hvalue, rfl, rfl⟩,
    ?_⟩
  refine { region := rfl, value := rfl, name := rfl, comment := rfl, symbolId := rfl, last := rfl,
           exists_last_iff := ?_
           size_of_last := fun final => (eq_some_iff_of_endsAt hlast final).1 }
  simp only [eq_some_iff_of_endsAt hlast]
  constructor
  · rintro ⟨final, hlt, hread⟩
    exact ⟨_, hread, by omega⟩
  · rintro ⟨size, hread, hlt⟩
    refine ⟨value + size - 1, by omega, ?_⟩
    rwa [show value + size - 1 - value + 1 = size by omega]

/-- **What ranges change in a listing**: its labels are those without, each with its range. -/
theorem labels_haveRanges {plain ranged : Listing}
    (hplain : (store.listing { settings with ranges := false }).outcome = .ok plain)
    (hranged : (store.listing { settings with ranges := true }).outcome = .ok ranged) :
    List.Forall₂ (fun symbol labels => Label.HasRange symbol labels.1 labels.2)
        (store.symbols.filter Symbol.isLabel) (plain.labels.zip ranged.labels) ∧
      ranged.labels.length = plain.labels.length ∧ ranged.symbolsRead = plain.symbolsRead ∧
      ranged.banner = plain.banner := by
  obtain ⟨hplain, hread, hbanner⟩ := outcome_listing_eq_ok_iff.1 hplain
  obtain ⟨hranged, hread', hbanner'⟩ := outcome_listing_eq_ok_iff.1 hranged
  have hlabels := outcome_labelsOf_eq_ok_iff.1 hranged
  have heq : plain.labels = ranged.labels.map fun label => { label with last := none } := by
    have hok : (store.labelsOf { settings with ranges := false } store.symbols).outcome =
        .ok (ranged.labels.map fun label => { label with last := none }) := by
      rw [outcome_labelsOf_eq_ok_iff, List.forall₂_map_right_iff]
      exact hlabels.imp fun _ _ h => (hasRange_of_label h).1
    exact Except.ok.inj (hplain.symm.trans hok)
  refine ⟨?_, by simp [heq], hread'.trans hread.symm, hbanner'.trans hbanner.symm⟩
  rw [heq, ← List.map_id ranged.labels, List.map_map, List.zip_map', List.forall₂_map_right_iff]
  exact hlabels.imp fun _ _ h => (hasRange_of_label h).2

/-! ### Both -/

/-- **What the options of a listing change.**

1. Whatever RAM is on the cartridge, the listing fails with the same failure or there is one, and
   then the lines differ in the tags of labels at `$6000`–`$7FFF` alone.
2. There is a listing with ranges exactly if there is one without and no label symbol has a size
   that is not a number, and then the labels differ in their last addresses alone. -/
theorem listing_options (store : Store) (settings : Settings) :
    ((∀ failure, (store.listing { settings with ram := .work }).outcome = .error failure ↔
        (store.listing { settings with ram := .save }).outcome = .error failure) ∧
      ∀ work save, (store.listing { settings with ram := .work }).outcome = .ok work →
        (store.listing { settings with ram := .save }).outcome = .ok save →
        List.Forall₂ (fun symbol lines => LinesByRam symbol lines.1 lines.2)
            (store.symbols.filter Symbol.isLabel) (work.lines.zip save.lines) ∧
          save.lines.length = work.lines.length ∧ save.symbolsRead = work.symbolsRead ∧
          save.banner = work.banner) ∧
    ((∃ ranged, (store.listing { settings with ranges := true }).outcome = .ok ranged) ↔
      (∃ plain, (store.listing { settings with ranges := false }).outcome = .ok plain) ∧
        ∀ symbol ∈ store.symbols.filter Symbol.isLabel,
          symbol.get? "size" = none ∨ ∃ size, symbol.Reads .decimal "size" size) ∧
    ∀ plain ranged, (store.listing { settings with ranges := false }).outcome = .ok plain →
      (store.listing { settings with ranges := true }).outcome = .ok ranged →
      List.Forall₂ (fun symbol labels => Label.HasRange symbol labels.1 labels.2)
          (store.symbols.filter Symbol.isLabel) (plain.labels.zip ranged.labels) ∧
        ranged.labels.length = plain.labels.length ∧ ranged.symbolsRead = plain.symbolsRead ∧
        ranged.banner = plain.banner := by
  refine ⟨⟨fun failure => ?_, fun work save => lines_byRam⟩, exists_listing_ranges_iff,
    fun plain ranged => labels_haveRanges⟩
  have h := listing_withRam store { settings with ram := .work } .save
  rw [h, Logged.outcome_map]
  exact map_eq_error_iff.symm

/-- The labels of `twoLabels` and one of three bytes in the RAM on the cartridge. -/
def threeLabels : Store :=
  twoLabels.put (⟨2, ⟨[("type", "lab"), ("val", "6000"), ("size", "3")], by decide⟩, none⟩ :
    Entry .symbol)

set_option maxRecDepth 2000 in
/-- They are listed as Work RAM with ranges, and so they are as Save RAM and without. -/
theorem listing_options_threeLabels : ∃ work save plain : Listing,
    (threeLabels.listing { ranges := true, ram := .work }).outcome = .ok work ∧
      work.lines = ["P:1-2:", "G:2000-2001:", "W:6000-6002:"] ∧
    (threeLabels.listing { ranges := true, ram := .save }).outcome = .ok save ∧
      save.lines = ["P:1-2:", "G:2000-2001:", "S:6000-6002:"] ∧
    (threeLabels.listing { ranges := false, ram := .work }).outcome = .ok plain ∧
      plain.lines = ["P:1:", "G:2000:", "W:6000:"] ∧
    List.Forall₂ (fun symbol lines => LinesByRam symbol lines.1 lines.2)
      (threeLabels.symbols.filter Symbol.isLabel) (work.lines.zip save.lines) ∧
    List.Forall₂ (fun symbol labels => Label.HasRange symbol labels.1 labels.2)
      (threeLabels.symbols.filter Symbol.isLabel) (plain.labels.zip work.labels) := by
  obtain ⟨work, hwork, hlines⟩ : ∃ listing : Listing,
      (threeLabels.listing { ranges := true, ram := .work }).outcome = .ok listing ∧
      listing.lines = ["P:1-2:", "G:2000-2001:", "W:6000-6002:"] := ⟨_, rfl, by decide⟩
  obtain ⟨save, hsave, hlines'⟩ : ∃ listing : Listing,
      (threeLabels.listing { ranges := true, ram := .save }).outcome = .ok listing ∧
      listing.lines = ["P:1-2:", "G:2000-2001:", "S:6000-6002:"] := ⟨_, rfl, by decide⟩
  obtain ⟨plain, hplain, hlines''⟩ : ∃ listing : Listing,
      (threeLabels.listing { ranges := false, ram := .work }).outcome = .ok listing ∧
      listing.lines = ["P:1:", "G:2000:", "W:6000:"] := ⟨_, rfl, by decide⟩
  obtain ⟨⟨-, hram⟩, -⟩ := listing_options threeLabels { ranges := true }
  obtain ⟨-, -, hranges⟩ := listing_options threeLabels { ram := .work }
  exact ⟨work, save, plain, hwork, hlines, hsave, hlines', hplain, hlines'',
    (hram work save hwork hsave).1, (hranges plain work hplain hwork).1⟩

end Store
end DebugLabels
