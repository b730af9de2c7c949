import Mathlib.Algebra.BigOperators.Group.Finset.Basic
import Mathlib.Algebra.Ring.Nat
import DebugLabels.Proofs.LabelReading

/-!
# What a listing counts adds up

A listing counts three things: its lines, the symbols of the store, and its labels by region.  There
is one line for each symbol of type `lab` (`Store.length_labels`), whatever the ids under which the
symbols are stored; the first character of a line is the tag of its region, and no two regions share
one (`Label.take_toList_line`, `Region.tag_injective`); and every label has one region, so that the
counts by region add up, over all regions as over those that are described
(`Listing.sum_map_count`).

The main statement is `Store.listing_addsUp`.
-/

namespace DebugLabels

/-- **Counts add up to the length**, over any list without duplicates that holds every member. -/
theorem sum_map_count_eq_length {α : Type} [DecidableEq α] {keys members : List α}
    (hkeys : keys.Nodup) (h : ∀ a ∈ members, a ∈ keys) :
    (keys.map fun key => members.count key).sum = members.length := by
  rw [← List.sum_toFinset _ hkeys, ← Multiset.coe_card]
  simp only [← Multiset.coe_count]
  exact Multiset.sum_count_eq_card fun a ha => List.mem_toFinset.2 (h a ha)

namespace Region

theorem nodup_all : all.Nodup := by decide

/-- No two regions share a tag. -/
theorem tag_injective : Function.Injective tag := by
  intro region other h
  rw [← Option.some.injEq, ← Label.ofTag?_tag, ← Label.ofTag?_tag, h]

end Region

/-- The first character of a line is the tag of its region. -/
theorem Label.take_toList_line (label : Label) :
    label.line.toList.take 1 = label.region.tag.toList := by
  rw [toList_line]
  cases label.region <;> rfl

namespace Listing

variable (listing : Listing)

theorem length_lines : listing.lines.length = listing.labels.length := List.length_map _

theorem count_eq_count_map (region : Region) :
    listing.count region = (listing.labels.map Label.region).count region := by
  rw [List.count, List.countP_map]
  rfl

/-- **The labels in a region are the lines with its tag.** -/
theorem count_eq_countP_lines (region : Region) :
    listing.count region =
      listing.lines.countP fun line => line.toList.take 1 = region.tag.toList := by
  rw [lines, List.countP_map, count]
  refine List.countP_congr fun label _ => ?_
  simp only [Function.comp_apply, decide_eq_true_eq, Label.take_toList_line]
  rw [String.toList_inj, Region.tag_injective.eq_iff]

/-- **The counts by region add up to the number of lines**, over any regions that hold all labels. -/
theorem sum_map_count {regions : List Region} (hnodup : regions.Nodup)
    (h : ∀ region, listing.count region ≠ 0 → region ∈ regions) :
    (regions.map listing.count).sum = listing.lines.length := by
  have hcount : listing.count = fun region => (listing.labels.map Label.region).count region :=
    funext listing.count_eq_count_map
  rw [length_lines, ← List.length_map Label.region, hcount, sum_map_count_eq_length hnodup]
  intro region hregion
  refine h region ?_
  rw [count_eq_count_map]
  exact (List.count_pos_iff.2 hregion).ne'

/-- The regions that a description tells of. -/
def described : List Region := Region.all.filter fun region => listing.count region ≠ 0

theorem mem_described {region : Region} : region ∈ listing.described ↔ listing.count region ≠ 0 := by
  simp [described, Region.mem_all]

/-- The count of a region as a description has it. -/
def countPhrase (region : Region) : String :=
  Numeral.decimal (listing.count region) ++ " " ++ region.description

/-- **What a description says.** -/
theorem describe_eq :
    listing.describe =
      Numeral.decimal listing.lines.length ++ " labels from " ++
        Numeral.decimal listing.symbolsRead ++ " symbols" ++
          if listing.described = [] then ""
          else " (" ++ ", ".intercalate (listing.described.map listing.countPhrase) ++ ")" := by
  have hphrases : countPhrases (fun region => (listing.count region : Int)) =
      listing.described.map listing.countPhrase := by
    simp only [countPhrases, described, ne_eq, Int.natCast_eq_zero]
    rfl
  rw [describe, phrase, hphrases]
  simp only [List.isEmpty_iff, List.map_eq_nil_iff]

end Listing

namespace Store

variable {store : Store} {settings : Settings} {listing : Listing}

/-- The ids under which the symbols with a property are stored. -/
def symbolIds (store : Store) (p : Symbol → Bool) : Finset Int :=
  ((store.symbolTable.toList.filter fun pair => p pair.2).map Prod.fst).toFinset

theorem mem_symbolIds {p : Symbol → Bool} {id : Int} :
    id ∈ store.symbolIds p ↔ ∃ symbol, store.find? .symbol id = some symbol ∧ p symbol = true := by
  simp only [symbolIds, List.mem_toFinset, List.mem_map, List.mem_filter, Prod.exists, find?,
    entries, ← Std.ExtTreeMap.mem_toList_iff_getElem?_eq_some]
  constructor
  · rintro ⟨_, symbol, hsymbol, rfl⟩
    exact ⟨symbol, hsymbol⟩
  · rintro ⟨symbol, hsymbol⟩
    exact ⟨id, symbol, hsymbol, rfl⟩

/-- **No symbol is counted twice**: the ids are all different, also of symbols that are alike. -/
theorem card_symbolIds (store : Store) (p : Symbol → Bool) :
    (store.symbolIds p).card = (store.symbols.filter p).length := by
  have hnodup : ((store.symbolTable.toList.filter fun pair => p pair.2).map Prod.fst).Nodup := by
    refine (List.filter_sublist.map Prod.fst).nodup ?_
    rw [Std.ExtTreeMap.map_fst_toList_eq_keys]
    exact Std.ExtTreeMap.nodup_keys
  rw [symbolIds, List.toFinset_card_of_nodup hnodup, List.length_map, symbols, List.filter_map,
    List.length_map]
  rfl

/-- **There is one label for each symbol of type `lab`.** -/
theorem length_labels (h : (store.listing settings).outcome = .ok listing) :
    listing.labels.length = (store.symbols.filter Symbol.isLabel).length := by
  obtain ⟨hlabels, -, -⟩ := outcome_listing_eq_ok_iff.1 h
  exact (outcome_labelsOf_eq_ok_iff.1 hlabels).length_eq.symm

/-- **What a listing counts adds up.**

* There are as many lines as stored symbols of type `lab`, and as many symbols read as stored
  symbols, so there are no more lines than symbols read.
* The count of a region is the number of lines that start with its tag, and the counts add up to the
  number of lines.
* A description tells of the regions that have a label, each once and in their order, with their
  counts, which add up to the number that it starts with. -/
theorem listing_addsUp (h : (store.listing settings).outcome = .ok listing) :
    (∃ ids labelIds : Finset Int,
      (∀ id, id ∈ ids ↔ ∃ symbol, store.find? .symbol id = some symbol) ∧
      (∀ id, id ∈ labelIds ↔
        ∃ symbol, store.find? .symbol id = some symbol ∧ symbol.get? "type" = some "lab") ∧
      listing.symbolsRead = ids.card ∧ listing.lines.length = labelIds.card ∧
      listing.lines.length ≤ listing.symbolsRead) ∧
    (∀ region, listing.count region =
      listing.lines.countP fun line => line.toList.take 1 = region.tag.toList) ∧
    (Region.all.map listing.count).sum = listing.lines.length ∧
    ∃ described : List Region,
      (∀ region, region ∈ described ↔ listing.count region ≠ 0) ∧
      (described.map Region.description).Sublist
        ["PRG-ROM", "Internal RAM", "Save RAM", "Work RAM", "Register"] ∧
      (described.map listing.count).sum = listing.lines.length ∧
      listing.describe =
        Numeral.decimal listing.lines.length ++ " labels from " ++
          Numeral.decimal listing.symbolsRead ++ " symbols" ++
            if described = [] then ""
            else " (" ++ ", ".intercalate (described.map fun region =>
              Numeral.decimal (listing.count region) ++ " " ++ region.description) ++ ")" := by
  have hread : listing.symbolsRead = store.symbols.length := by
    rw [(outcome_listing_eq_ok_iff.1 h).2.1, count_symbol]
  have hlines : listing.lines.length = (store.symbols.filter Symbol.isLabel).length := by
    rw [listing.length_lines, length_labels h]
  refine ⟨⟨store.symbolIds fun _ => true, store.symbolIds Symbol.isLabel, fun id => ?_,
    fun id => ?_, ?_, ?_, ?_⟩, listing.count_eq_countP_lines,
    listing.sum_map_count Region.nodup_all fun region _ => region.mem_all,
    listing.described, fun _ => listing.mem_described, ?_, ?_, listing.describe_eq⟩
  · simp [mem_symbolIds]
  · simp only [mem_symbolIds, isLabel_eq_true_iff]
  · rw [hread, card_symbolIds, List.filter_true]
  · rw [hlines, card_symbolIds]
  · rw [hlines, hread]
    exact List.length_filter_le _ _
  · exact List.filter_sublist.map Region.description
  · exact listing.sum_map_count (Region.nodup_all.filter _) fun _ => listing.mem_described.2

/-- A register label, a label in the internal RAM, and a symbol of another type. -/
def threeSymbols : Store :=
  empty
    |>.put (⟨0, ⟨[("type", "lab"), ("val", "2000")], by decide⟩, none⟩ : Entry .symbol)
    |>.put (⟨1, ⟨[("type", "lab"), ("val", "10")], by decide⟩, none⟩ : Entry .symbol)
    |>.put (⟨2, ⟨[("type", "equ"), ("val", "10")], by decide⟩, none⟩ : Entry .symbol)

set_option maxRecDepth 2000 in
/-- Two lines for three symbols, and two regions in the description. -/
theorem listing_addsUp_threeSymbols :
    ∃ listing, (threeSymbols.listing {}).outcome = .ok listing ∧
      listing.lines = ["G:2000:", "R:10:"] ∧
      listing.describe = "2 labels from 3 symbols (1 Internal RAM, 1 Register)" ∧
      listing.lines.length ≤ listing.symbolsRead ∧
      (Region.all.map listing.count).sum = listing.lines.length := by
  obtain ⟨listing, hlisting, hlines, hdescribe⟩ : ∃ listing,
      (threeSymbols.listing {}).outcome = .ok listing ∧ listing.lines = ["G:2000:", "R:10:"] ∧
      listing.describe = "2 labels from 3 symbols (1 Internal RAM, 1 Register)" :=
    ⟨_, rfl, by decide, by decide⟩
  obtain ⟨⟨_, _, -, -, -, -, hle⟩, -, hsum, -⟩ := listing_addsUp hlisting
  exact ⟨listing, hlisting, hlines, hdescribe, hle, hsum⟩

end Store
end DebugLabels
