import DebugLabels.Label

/-!
# Listings

A `Listing` is what a conversion makes of a store: its labels by ascending symbol id, the number of
symbols among which they were found, and the banner of the file's version. It is all or nothing: one
label that cannot be listed fails the whole listing.

A listing is described by its number of labels and symbols and the number of labels in each region
that has any:

    3 labels from 7 symbols (2 PRG-ROM, 1 Register)
-/

namespace DebugLabels

/-- The labels of a store. -/
structure Listing where
  labels : List Label
  symbolsRead : Nat
  banner : String
  deriving DecidableEq, Repr

namespace Listing

/-- The lines of the label file. -/
def lines (listing : Listing) : List String := listing.labels.map Label.line

/-- The number of labels in a region. -/
def count (listing : Listing) (region : Region) : Nat :=
  listing.labels.countP fun label => label.region = region

/-- The counts that are not zero, in words. -/
def countPhrases (count : Region → Int) : List String :=
  (Region.all.filter fun region => count region ≠ 0).map fun region =>
    Numeral.decimal (count region) ++ " " ++ region.description

/-- Counts of labels, of symbols and by region, in words. -/
def phrase (labels symbols : Int) (count : Region → Int) : String :=
  let phrases := countPhrases count
  let detail := if phrases.isEmpty then "" else " (" ++ ", ".intercalate phrases ++ ")"
  Numeral.decimal labels ++ " labels from " ++ Numeral.decimal symbols ++ " symbols" ++ detail

/-- The listing in words. -/
def describe (listing : Listing) : String :=
  phrase listing.lines.length listing.symbolsRead fun region => listing.count region

/-- The text of the label file: each line with a line feed. -/
def fileText (lines : List String) : String := String.join (lines.map (· ++ "\n"))

end Listing

namespace Store

/-- The labels of symbols, in order; the first symbol that fails fails them all. -/
def labelsOf (store : Store) (settings : Settings) (symbols : List Symbol) : Logged (List Label) :=
  symbols.foldr
    (fun symbol rest => do
      let label ← store.label settings symbol
      let labels ← rest
      return label.toList ++ labels)
    (pure [])

theorem labelsOf_cons (store : Store) (settings : Settings) (symbol : Symbol)
    (symbols : List Symbol) :
    store.labelsOf settings (symbol :: symbols) = do
      let label ← store.label settings symbol
      let labels ← store.labelsOf settings symbols
      return label.toList ++ labels := rfl

/-- The labels of a store by ascending symbol id. -/
def labels (store : Store) (settings : Settings) : Logged (List Label) :=
  store.labelsOf settings store.symbols

/-- The listing of a store. -/
def listing (store : Store) (settings : Settings) : Logged Listing := do
  let labels ← store.labels settings
  return ⟨labels, store.count (.table .symbol), store.banner⟩

end Store
end DebugLabels
