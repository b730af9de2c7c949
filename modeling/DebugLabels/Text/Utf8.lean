/-!
# Reading UTF-8

The bytes of a file are read as UTF-8. Bytes that are no UTF-8 do not stop the reading: each maximal
part that starts a character and is not continued, and each byte that starts none, is read as the
replacement character U+FFFD.

| first byte | next byte | more after it |
| --- | --- | ---: |
| `00`–`7F` | | |
| `C2`–`DF` | `80`–`BF` | 0 |
| `E0` | `A0`–`BF` | 1 |
| `E1`–`EC`, `EE`, `EF` | `80`–`BF` | 1 |
| `ED` | `80`–`9F` | 1 |
| `F0` | `90`–`BF` | 2 |
| `F1`–`F3` | `80`–`BF` | 2 |
| `F4` | `80`–`8F` | 2 |
-/

namespace DebugLabels
namespace Text

/-- The character in place of bytes that are no UTF-8. -/
def replacement : Char := '\ufffd'

/-- Where the reading stands: between two characters, or inside one whose bytes so far have a value,
with the least and the greatest byte that may come next and the number of bytes to come. -/
inductive Utf8Position
  | between
  | inside (value low high left : Nat)

/-- The step at a byte that comes between two characters: the new position and what was read. -/
def readFirstByte (b : Nat) : Utf8Position × List Char :=
  if b ≤ 0x7F then (.between, [Char.ofNat b])
  else if 0xC2 ≤ b ∧ b ≤ 0xDF then (.inside (b - 0xC0) 0x80 0xBF 1, [])
  else if b = 0xE0 then (.inside 0x0 0xA0 0xBF 2, [])
  else if b = 0xED then (.inside 0xD 0x80 0x9F 2, [])
  else if 0xE1 ≤ b ∧ b ≤ 0xEF then (.inside (b - 0xE0) 0x80 0xBF 2, [])
  else if b = 0xF0 then (.inside 0x0 0x90 0xBF 3, [])
  else if 0xF1 ≤ b ∧ b ≤ 0xF3 then (.inside (b - 0xF0) 0x80 0xBF 3, [])
  else if b = 0xF4 then (.inside 0x4 0x80 0x8F 3, [])
  else (.between, [replacement])

/-- The step at any byte. A byte that does not continue the character is read again as a first
byte, after the replacement of what was there. -/
def readByte : Utf8Position → Nat → Utf8Position × List Char
  | .between, b => readFirstByte b
  | .inside value low high left, b =>
    if low ≤ b ∧ b ≤ high then
      let value := value * 64 + (b - 0x80)
      if left ≤ 1 then (.between, [Char.ofNat value]) else (.inside value 0x80 0xBF (left - 1), [])
    else
      let (position, cs) := readFirstByte b
      (position, replacement :: cs)

/-- What an end of the bytes at a position reads as. -/
def readEnd : Utf8Position → List Char
  | .between => []
  | .inside .. => [replacement]

/-- The characters of a list of bytes, with replacements. -/
def replaceInvalid (bytes : List UInt8) : List Char :=
  let (position, read) := bytes.foldl
    (fun (position, read) b =>
      let (position, cs) := readByte position b.toNat
      (position, cs.reverse ++ read))
    (Utf8Position.between, [])
  read.reverse ++ readEnd position

/-- The text of a file's bytes: the text they encode, if they encode one, and else the text with
replacements. -/
def ofUtf8 (bytes : ByteArray) : String :=
  match String.fromUTF8? bytes with
  | some s => s
  | none => String.ofList (replaceInvalid bytes.toList)

/-- One replacement for a character that breaks off, one for each byte that starts none. -/
example : replaceInvalid [0x61, 0xF0, 0x9F, 0x62, 0x80, 0xFF] =
    ['a', replacement, 'b', replacement, replacement] := by decide

/-- A surrogate is no character: three bytes, three replacements. -/
example : replaceInvalid [0xED, 0xB0, 0x80] = [replacement, replacement, replacement] := by decide

end Text
end DebugLabels
