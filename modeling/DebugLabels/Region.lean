import DebugLabels.Settings.Basic

/-!
# Regions of memory

| addresses | region | tag |
| --- | --- | --- |
| below `$2000` | internal RAM | `R` |
| `$2000`–`$5FFF` | registers | `G` |
| `$6000`–`$7FFF` | Work RAM or Save RAM, as the settings say | `W`, `S` |
| from `$8000` on | PRG-ROM | `P` |
-/

namespace DebugLabels

/-- A region that labels can lie in. -/
inductive Region
  | prgRom
  | internalRam
  | saveRam
  | workRam
  | register
  deriving DecidableEq, Repr

namespace Region

/-- The letter of the region in a label file. -/
def tag : Region → String
  | prgRom => "P"
  | internalRam => "R"
  | saveRam => "S"
  | workRam => "W"
  | register => "G"

/-- The region in words. -/
def description : Region → String
  | prgRom => "PRG-ROM"
  | internalRam => "Internal RAM"
  | saveRam => "Save RAM"
  | workRam => "Work RAM"
  | register => "Register"

/-- The regions, in the order in which they are summed up. -/
def all : List Region := [prgRom, internalRam, saveRam, workRam, register]

theorem mem_all (region : Region) : region ∈ all := by cases region <;> decide

/-- The region of a tag. -/
def ofTag? (tag : String) : Option Region := all.find? fun region => region.tag == tag

/-- The region of the RAM on the cartridge. -/
def ofRam : ExpansionRam → Region
  | .work => workRam
  | .save => saveRam

/-- The region that an address lies in. -/
def ofAddress (address : Int) (ram : ExpansionRam) : Region :=
  if address < 0x2000 then internalRam
  else if address < 0x6000 then register
  else if address < 0x8000 then ofRam ram
  else prgRom

/-- The ROM window starts at `$8000`. -/
theorem ofAddress_eq_prgRom_iff {address : Int} {ram : ExpansionRam} :
    ofAddress address ram = prgRom ↔ 0x8000 ≤ address := by
  unfold ofAddress
  split
  · simp; omega
  · split
    · simp; omega
    · split
      · cases ram <;> simp [ofRam] <;> omega
      · simp; omega

end Region
end DebugLabels
