import DebugLabels.Proofs.Listed
import DebugLabels.Proofs.Reading

/-!
# The base offset only moves PRG-ROM labels

The listing of a store under a base offset is compared with its listing under a lower one.  Both
have the same labels in the same order, and only those of the ROM image are moved: under the lower
base offset their value, and their last address if they have one, is larger by the difference
(`Label.IsRaised`).

A base offset is taken off the place of a label in the image and then it is asked whether the result
is negative; nothing else depends on it (`isListedUnder_base_iff`).  So the main statement,
`listing_base_iff`, goes both ways: there is a listing under the higher base offset exactly if there
is one under the lower base offset whose PRG-ROM labels can be moved down by the difference.
-/

namespace DebugLabels

/-- A label is moved up by a difference if it is a PRG-ROM label, and else it stays as it is. -/
structure Label.IsRaised (difference : Int) (label raised : Label) : Prop where
  region : raised.region = label.region
  name : raised.name = label.name
  comment : raised.comment = label.comment
  symbolId : raised.symbolId = label.symbolId
  rom : label.region = .prgRom →
    raised.value = label.value + difference ∧ raised.last = label.last.map (· + difference)
  other : label.region ≠ .prgRom → raised = label ∧ raised.line = label.line

/-- Two lists match by way of a third one if their members do. -/
theorem forall₂_iff_exists_forall₂ {α β γ : Type} {P : α → β → Prop} {Q : α → γ → Prop}
    {R : β → γ → Prop} {S : β → Prop} (h : ∀ a b, P a b ↔ (∃ c, Q a c ∧ R b c) ∧ S b)
    {as : List α} {bs : List β} :
    List.Forall₂ P as bs ↔
      (∃ cs, List.Forall₂ Q as cs ∧ List.Forall₂ R bs cs) ∧ ∀ b ∈ bs, S b := by
  constructor
  · intro hall
    induction hall with
    | nil => exact ⟨⟨[], .nil, .nil⟩, by simp⟩
    | cons hab _ ih =>
      obtain ⟨⟨c, hac, hbc⟩, hb⟩ := (h _ _).1 hab
      obtain ⟨⟨cs, hacs, hbcs⟩, hbs⟩ := ih
      exact ⟨⟨c :: cs, .cons hac hacs, .cons hbc hbcs⟩, List.forall_mem_cons.2 ⟨hb, hbs⟩⟩
  · rintro ⟨⟨cs, hacs, hbcs⟩, hbs⟩
    induction hacs generalizing bs with
    | nil =>
      cases hbcs
      exact .nil
    | cons hac _ ih =>
      cases hbcs with
      | cons hbc hbcs =>
        obtain ⟨hb, hbs⟩ := List.forall_mem_cons.1 hbs
        exact .cons ((h _ _).2 ⟨⟨_, hac, hbc⟩, hb⟩) (ih hbs hbcs)

namespace Store

variable {store : Store} {settings : Settings} {symbol : Symbol} {lower higher : Nat}

/-- **What a symbol is listed under, under two base offsets**: the same address outside the ROM
window, and in it a value that the difference is added to. -/
theorem isListedUnder_base_iff (hle : lower ≤ higher) {address value : Int} :
    store.IsListedUnder { settings with base := higher } symbol address value ↔
      store.IsListedUnder { settings with base := lower } symbol address
          (if 0x8000 ≤ address then value + (higher - lower) else value) ∧
        (0x8000 ≤ address → 0 ≤ value) := by
  unfold IsListedUnder
  by_cases hrom : 0x8000 ≤ address
  · simp only [if_pos hrom, imp_iff_right hrom]
    constructor
    · rintro ⟨segmentId, segment, start, offset, hlies, hplaced, rfl, hvalue⟩
      refine ⟨⟨segmentId, segment, start, offset, hlies, hplaced, ?_, ?_⟩, hvalue⟩
      · omega
      · omega
    · rintro ⟨⟨segmentId, segment, start, offset, hlies, hplaced, hraised, -⟩, hvalue⟩
      refine ⟨segmentId, segment, start, offset, hlies, hplaced, ?_, hvalue⟩
      omega
  · simp [hrom]

/-- The last address moves with the value. -/
theorem endsAt_add_iff {value difference : Int} {last : Option Int} :
    EndsAt settings symbol (value + difference) (last.map (· + difference)) ↔
      EndsAt settings symbol value last := by
  unfold EndsAt
  split
  · refine or_congr (by simp) (exists_congr fun size => and_congr_right fun _ => ?_)
    by_cases hsize : 1 < size
    · cases last with
      | none => simp [hsize]
      | some last =>
        simp only [if_pos hsize, Option.map_some, Option.some.injEq]
        omega
    · simp [hsize]
  · simp

/-- **The label of a symbol under two base offsets.** -/
theorem outcome_label_base_iff (hle : lower ≤ higher) {label : Label} :
    (store.label { settings with base := higher } symbol).outcome = .ok (some label) ↔
      (∃ raised,
        (store.label { settings with base := lower } symbol).outcome = .ok (some raised) ∧
          label.IsRaised (higher - lower) raised) ∧
        (label.region = .prgRom → 0 ≤ label.value) := by
  simp only [outcome_label_eq_ok_some_iff, isListedUnder_base_iff hle]
  constructor
  · rintro ⟨htype, address, value, last, haddress, ⟨hvalue, hnonneg⟩, hlast, rfl⟩
    by_cases hrom : 0x8000 ≤ address
    · have hregion : Region.ofAddress address settings.ram = .prgRom :=
        Region.ofAddress_eq_prgRom_iff.2 hrom
      rw [if_pos hrom] at hvalue
      exact ⟨⟨_, ⟨htype, address, _, _, haddress, hvalue, endsAt_add_iff.2 hlast, rfl⟩,
        { region := rfl, name := rfl, comment := rfl, symbolId := rfl,
          rom := fun _ => ⟨rfl, rfl⟩, other := fun h => absurd hregion h }⟩,
        fun _ => hnonneg hrom⟩
    · have hregion : Region.ofAddress address settings.ram ≠ .prgRom :=
        fun h => hrom (Region.ofAddress_eq_prgRom_iff.1 h)
      rw [if_neg hrom] at hvalue
      exact ⟨⟨_, ⟨htype, address, _, _, haddress, hvalue, hlast, rfl⟩,
        { region := rfl, name := rfl, comment := rfl, symbolId := rfl,
          rom := fun h => absurd h hregion, other := fun _ => ⟨rfl, rfl⟩ }⟩,
        fun h => absurd h hregion⟩
  · rintro ⟨⟨_, ⟨htype, address, raised, last, haddress, hraised, hlast, rfl⟩, hlabel⟩, hnonneg⟩
    obtain ⟨region, value, name, last', comment, symbolId⟩ := label
    obtain ⟨hregion, hname, hcomment, hsymbolId, hmoved, hother⟩ := hlabel
    dsimp only at hregion hname hcomment hsymbolId hmoved hother hnonneg
    subst hregion hname hcomment hsymbolId
    by_cases hrom : 0x8000 ≤ address
    · have hregion : Region.ofAddress address settings.ram = .prgRom :=
        Region.ofAddress_eq_prgRom_iff.2 hrom
      obtain ⟨rfl, rfl⟩ := hmoved hregion
      refine ⟨htype, address, value, last', haddress, ⟨?_, fun _ => hnonneg hregion⟩,
        endsAt_add_iff.1 hlast, rfl⟩
      rw [if_pos hrom]
      exact hraised
    · have hregion : Region.ofAddress address settings.ram ≠ .prgRom :=
        fun h => hrom (Region.ofAddress_eq_prgRom_iff.1 h)
      obtain ⟨heq, -⟩ := hother hregion
      obtain ⟨-, rfl, -, rfl, -, -⟩ := Label.mk.inj heq
      refine ⟨htype, address, raised, last, haddress, ⟨?_, fun h => absurd h hrom⟩, hlast, rfl⟩
      rw [if_neg hrom]
      exact hraised

/-- From one symbol to a list of them. -/
theorem outcome_labelsOf_base_iff (hle : lower ≤ higher) {symbols : List Symbol}
    {labels : List Label} :
    (store.labelsOf { settings with base := higher } symbols).outcome = .ok labels ↔
      (∃ raised, (store.labelsOf { settings with base := lower } symbols).outcome = .ok raised ∧
        List.Forall₂ (Label.IsRaised (higher - lower)) labels raised) ∧
      ∀ label ∈ labels, label.region = .prgRom → 0 ≤ label.value := by
  simp only [outcome_labelsOf_eq_ok_iff]
  refine forall₂_iff_exists_forall₂ fun symbol label => ?_
  exact outcome_label_base_iff hle

/-- **The base offset only moves PRG-ROM labels.**  A listing is the one under the higher of two base
offsets exactly if there is one under the lower that differs from it in its PRG-ROM labels alone, by
the difference, and no PRG-ROM label is below zero. -/
theorem listing_base_iff (store : Store) (settings : Settings) (hle : lower ≤ higher)
    (listing : Listing) :
    (store.listing { settings with base := higher }).outcome = .ok listing ↔
      (∃ lowered, (store.listing { settings with base := lower }).outcome = .ok lowered ∧
        List.Forall₂ (Label.IsRaised (higher - lower)) listing.labels lowered.labels ∧
        lowered.symbolsRead = listing.symbolsRead ∧ lowered.banner = listing.banner) ∧
      ∀ label ∈ listing.labels, label.region = .prgRom → 0 ≤ label.value := by
  simp only [outcome_listing_eq_ok_iff, outcome_labelsOf_base_iff hle]
  constructor
  · rintro ⟨⟨⟨labels, hlabels, hraised⟩, hnonneg⟩, hcount, hbanner⟩
    exact ⟨⟨⟨labels, listing.symbolsRead, listing.banner⟩, ⟨hlabels, hcount, hbanner⟩, hraised,
      rfl, rfl⟩, hnonneg⟩
  · rintro ⟨⟨lowered, ⟨hlabels, hcount, hbanner⟩, hraised, hsame, hsame'⟩, hnonneg⟩
    exact ⟨⟨⟨lowered.labels, hlabels, hraised⟩, hnonneg⟩, hsame ▸ hcount, hsame' ▸ hbanner⟩

/-- The entries of a PRG-ROM label of two bytes and of a register. -/
def twoLabels : Store :=
  empty
    |>.put (⟨0, ⟨[("start", "8000"), ("ooffs", "16")], by decide⟩, none⟩ : Entry .segment)
    |>.put (⟨0, ⟨[("seg", "0")], by decide⟩, none⟩ : Entry .span)
    |>.put (⟨0, ⟨[("span", "0")], by decide⟩, none⟩ : Entry .scope)
    |>.put (⟨0, ⟨[("type", "lab"), ("val", "8001"), ("scope", "0"), ("size", "2")], by decide⟩,
      none⟩ : Entry .symbol)
    |>.put (⟨1, ⟨[("type", "lab"), ("val", "2000"), ("size", "2")], by decide⟩, none⟩ :
      Entry .symbol)

set_option maxRecDepth 2000 in
/-- They are listed with and without the usual header. -/
theorem listing_base_iff_header :
    ∃ listing lowered, 0 ≤ BaseOffset.usual ∧
      (twoLabels.listing { base := BaseOffset.usual, ranges := true }).outcome = .ok listing ∧
      listing.lines = ["P:1-2:", "G:2000-2001:"] ∧
      (twoLabels.listing { base := 0, ranges := true }).outcome = .ok lowered ∧
      List.Forall₂ (Label.IsRaised (BaseOffset.usual - (0 : Nat))) listing.labels
        lowered.labels := by
  obtain ⟨listing, hlisting, hlines⟩ : ∃ listing,
      (twoLabels.listing { base := BaseOffset.usual, ranges := true }).outcome = .ok listing ∧
      listing.lines = ["P:1-2:", "G:2000-2001:"] := ⟨_, rfl, by decide⟩
  obtain ⟨⟨lowered, hlowered, hraised, -⟩, -⟩ :=
    (listing_base_iff twoLabels { ranges := true } (Nat.zero_le BaseOffset.usual) listing).1
      hlisting
  exact ⟨listing, lowered, Nat.zero_le _, hlisting, hlines, hlowered, hraised⟩

end Store
end DebugLabels
