import DebugLabels.Placement
import DebugLabels.Region

/-!
# Labels

A label file has one line for each label:

    <tag>:<address>[-<last address>]:<name>[:<comment>]

Addresses are in lowercase hexadecimal. RAM and register labels keep their address; the address of a
PRG-ROM label is its offset in the ROM image less the base offset, which must not be negative. The
last address is there for labels of more than one byte, if ranges are asked for.
-/

namespace DebugLabels

/-- A label as it is listed. -/
structure Label where
  region : Region
  value : Int
  name : Option String
  last : Option Int
  comment : Option String
  symbolId : Option Int
  deriving DecidableEq, Repr

namespace Label

/-- The address, or the first and the last. -/
def address (label : Label) : String :=
  match label.last with
  | some last => Numeral.hex label.value ++ "-" ++ Numeral.hex last
  | none => Numeral.hex label.value

/-- The comment as it ends a line. -/
def ending (label : Label) : String :=
  match label.comment with
  | some comment => ":" ++ comment
  | none => ""

/-- The line of the label, without a line end. -/
def line (label : Label) : String :=
  label.region.tag ++ ":" ++ label.address ++ ":" ++ label.name.getD "" ++ label.ending

end Label

namespace Store

/-- The failure of a label that has no place in the image. -/
def outsideImage (symbol : Symbol) (address : Int) (gap : ImageGap) : Failure :=
  .ofError (.outsideImage (Symbol.name symbol) address gap)

/-- The offset that a placed PRG-ROM label is listed under. -/
def listedOffset (settings : Settings) (symbol : Symbol) (address : Int) :
    Option Placement → Except Failure Int
  | none => .error (outsideImage symbol address .segmentNotInImage)
  | some placement =>
    let offset := placement.toImage address - settings.base
    if offset < 0 then
      .error (outsideImage symbol address
        (.negativeOffset offset placement.segmentId settings.base))
    else .ok offset

/-- The value that a label at an address is listed under. -/
def listedValue (store : Store) (settings : Settings) (symbol : Symbol) (address : Int) :
    Logged Int :=
  if Region.ofAddress address settings.ram = .prgRom then do
    let placement ← store.place symbol
    listedOffset settings symbol address placement
  else return address

/-- The last address of a label of more than one byte, if ranges are asked for. -/
def lastAddress (settings : Settings) (symbol : Symbol) (value : Int) :
    Except Failure (Option Int) :=
  if settings.ranges then do
    match ← Symbol.size symbol with
    | some size => return if 1 < size then some (value + size - 1) else none
    | none => return none
  else .ok none

/-- The label of a symbol, if the symbol is one. -/
def label (store : Store) (settings : Settings) (symbol : Symbol) : Logged (Option Label) :=
  if Symbol.isLabel symbol then do
    let address ← Symbol.value symbol
    let value ← store.listedValue settings symbol address
    let last ← lastAddress settings symbol value
    return some {
      region := Region.ofAddress address settings.ram
      value
      name := Symbol.name symbol
      last
      comment := Symbol.comment symbol
      symbolId := some symbol.id }
  else do
    Logged.note (.skipped (Symbol.mention symbol) (Symbol.type symbol))
    return none

end Store
end DebugLabels
