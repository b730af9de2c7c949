import DebugLabels.Store.Recording

/-!
# Where a symbol lies in the ROM image

A symbol is followed to the segment that holds it:

    symbol — its scope, or its parent's scope → scope
    scope  — the least id of its span list    → span
    span   — its segment                      → segment

A segment that was written to the ROM image has a start address and an offset in the image, which
move an address of the segment to its place in the image (`Placement.toImage`). The span with the
least id stands for the whole scope, whether or not it covers the symbol.

`Store.follow` fails at the first link that is missing or unreadable; an image offset is looked for
before the start address is read.
-/

namespace DebugLabels

/-- The place of a segment in the ROM image. -/
structure Placement where
  base : Int
  offset : Int
  segmentId : Int
  deriving DecidableEq, Repr

/-- The place in the image of an address of the segment. -/
def Placement.toImage (placement : Placement) (address : Int) : Int :=
  address - placement.base + placement.offset

/-- The links from a symbol to its segment, and the segment's start and offset if it is in the
image. -/
structure Chain where
  scopeId : Int
  spanId : Int
  segmentId : Int
  place : Option (Int × Int)
  deriving DecidableEq, Repr

/-- The place of the segment that the links lead to. -/
def Chain.placement? (chain : Chain) : Option Placement :=
  chain.place.map fun (base, offset) => ⟨base, offset, chain.segmentId⟩

namespace Store

/-- The failure of a symbol that has no scope. -/
def unresolvedScope (symbol : Symbol) (gap : ScopeGap) : Failure :=
  .ofError (.unresolvedScope symbol.id (Symbol.name symbol) gap)

/-- The id of a symbol's scope: its own, or that of its parent if it has none. -/
def scopeIdOf (store : Store) (symbol : Symbol) : Except Failure Int := do
  match ← Symbol.scopeId symbol with
  | some scopeId => return scopeId
  | none =>
    match ← Symbol.parentId symbol with
    | none => throw (unresolvedScope symbol .noScopeNoParent)
    | some parentId =>
      let parent ← store.get .symbol parentId (some (Symbol.mention symbol))
      match ← Symbol.scopeId parent with
      | some scopeId => return scopeId
      | none => throw (unresolvedScope symbol (.parentWithoutScope (Symbol.mention parent)))

/-- The start and the offset of a segment that is in the image. -/
def placeOf (segment : Segment) : Except Failure (Option (Int × Int)) :=
  if Segment.isInImage segment then do
    let base ← Segment.start segment
    let offset ← Segment.imageOffset segment
    return some (base, offset)
  else .ok none

/-- The links from a symbol to its segment. -/
def follow (store : Store) (symbol : Symbol) : Except Failure Chain := do
  let scopeId ← store.scopeIdOf symbol
  let scope ← store.get .scope scopeId (some (Symbol.mention symbol))
  let spanId ← Scope.lowestSpanId scope
  let span ← store.get .span spanId (some (.entry .scope scopeId))
  let segmentId ← Span.segmentId span
  let segment ← store.get .segment segmentId (some (.entry .span spanId))
  let place ← placeOf segment
  return ⟨scopeId, spanId, segmentId, place⟩

/-- The place of a symbol's segment in the image, if it is in the image. -/
def place (store : Store) (symbol : Symbol) : Logged (Option Placement) := do
  let chain ← store.follow symbol
  Logged.note
    (.placed (Symbol.mention symbol) chain.scopeId chain.spanId chain.segmentId chain.place)
  return chain.placement?

end Store
end DebugLabels
