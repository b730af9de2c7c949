import DebugLabels.Failure
import DebugLabels.Settings.Value

/-!
# Settings of a conversion

* The *base offset* is taken off every offset in the ROM image. An image starts with a header of 16
  bytes that the debugger does not show, so 16 is the usual base offset. It is never negative.
* The *expansion RAM* at `$6000`–`$7FFF` is Work RAM or battery backed Save RAM.
* With *ranges*, a label of more than one byte is listed with its last address.

Settings come from texts (`Settings.ofTexts`) or from values of no known type (`Settings.ofValues`).
Either way the base offset is looked at first.
-/

namespace DebugLabels

/-- What the RAM on the cartridge is. -/
inductive ExpansionRam
  | work
  | save
  deriving DecidableEq, Repr

namespace ExpansionRam

/-- The letter that selects it. -/
def tag : ExpansionRam → String
  | work => "W"
  | save => "S"

/-- What it is, in words. -/
def description : ExpansionRam → String
  | work => "Work RAM"
  | save => "Battery backed Save RAM"

/-- A letter as an uppercase letter; the long s is an s. -/
def upperLetter (c : Char) : Char := if c = '\u017f' then 'S' else c.toUpper

/-- The selection that a text makes: without blanks around it, hyphens and underscores, and in any
case, it is `w`, `work` or `workram`, or `s`, `save` or `saveram`. -/
def select? (text : String) : Option ExpansionRam :=
  let letters := (Text.trim Text.isBlank text.toList).map upperLetter
  let key := letters.filter fun c => c ≠ '-' ∧ c ≠ '_'
  if key ∈ ["W".toList, "WORK".toList, "WORKRAM".toList] then some work
  else if key ∈ ["S".toList, "SAVE".toList, "SAVERAM".toList] then some save
  else none

/-- The selection that a text has to make. -/
def ofText (text : String) : Except Failure ExpansionRam :=
  match select? text with
  | some ram => .ok ram
  | none => .error (.ofError (.setting (.ramUnknown text)))

end ExpansionRam

namespace BaseOffset

/-- The number that a base offset's text stands for: hexadecimal after `$` or `0x`, else decimal. -/
def number? (text : String) : Option Int :=
  match Text.trim Text.isBlank text.toList with
  | '$' :: digits => Numeral.read? .hexadecimal digits
  | '0' :: 'x' :: digits | '0' :: 'X' :: digits => Numeral.read? .hexadecimal digits
  | digits => Numeral.read? .decimal digits

/-- A number as a base offset, which is not negative. -/
def ofInt (base : Int) : Except Failure Nat :=
  if base < 0 then .error (.ofError (.setting (.baseNegative base))) else .ok base.toNat

/-- The base offset of a text. -/
def ofText (text : String) : Except Failure Nat :=
  match number? text with
  | some base => ofInt base
  | none => .error (.ofError (.setting (.baseUnreadable text)))

/-- The base offset of a value, which has to be an integer. -/
def ofValue : Value → Except Failure Nat
  | .integer base => ofInt base
  | value => .error (.ofError (.setting (.baseNotInteger value.shown)))

/-- The base offset of an image with the usual header. -/
def usual : Nat := 0x10

end BaseOffset

/-- The settings of a conversion. -/
structure Settings where
  base : Nat := BaseOffset.usual
  ram : ExpansionRam := .work
  ranges : Bool := false
  deriving DecidableEq, Repr

/-- What settings may be given for the expansion RAM: a mode, or anything else. -/
inductive RamChoice
  | mode (ram : ExpansionRam)
  | other (value : Value)

namespace Settings

/-- The expansion RAM of a choice, which has to be a mode. -/
def ramOfChoice : RamChoice → Except Failure ExpansionRam
  | .mode ram => .ok ram
  | .other value => .error (.ofError (.setting (.ramNotMode value.shown)))

/-- Settings from texts; what is not given is as usual. -/
def ofTexts (base ram : Option String) (ranges : Bool) : Except Failure Settings := do
  let base ← match base with
    | some text => BaseOffset.ofText text
    | none => pure BaseOffset.usual
  let ram ← match ram with
    | some text => ExpansionRam.ofText text
    | none => pure .work
  return { base, ram, ranges }

/-- Settings from values. -/
def ofValues (base : Value) (ram : RamChoice) (ranges : Bool) : Except Failure Settings := do
  let base ← BaseOffset.ofValue base
  let ram ← ramOfChoice ram
  return { base, ram, ranges }

end Settings
end DebugLabels
