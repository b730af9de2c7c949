import DebugLabels.Text.Printable

/-!
# Quoted text

A text is shown between single quotes, or between double quotes if it holds single quotes and no
double ones.

| character | shown as |
| --- | --- |
| backslash, the quote in use | with a backslash before it |
| tab, line feed, carriage return | `\t`, `\n`, `\r` |
| one that is shown as itself | itself |
| any other, below U+0100 | `\x` and two hexadecimal digits |
| any other, below U+10000 | `\u` and four |
| any other | `\U` and eight |
-/

namespace DebugLabels
namespace Text

/-- The quote that a text is shown in. -/
def quoteFor (cs : List Char) : Char :=
  if '\x27' ∈ cs ∧ '"' ∉ cs then '"' else '\x27'

/-- A number in lowercase hexadecimal digits, filled up with zeros to a width. -/
def hexDigits (width n : Nat) : List Char := (Nat.toDigits 16 n).leftpad width '0'

/-- A character inside quotes. -/
def escaped (quote c : Char) : List Char :=
  if c = quote ∨ c = '\\' then ['\\', c]
  else if c = '\t' then ['\\', 't']
  else if c = '\n' then ['\\', 'n']
  else if c = '\r' then ['\\', 'r']
  else if isPrintable c then [c]
  else if c.toNat < 0x100 then '\\' :: 'x' :: hexDigits 2 c.toNat
  else if c.toNat < 0x10000 then '\\' :: 'u' :: hexDigits 4 c.toNat
  else '\\' :: 'U' :: hexDigits 8 c.toNat

/-- A text in quotes. -/
def quoted (s : String) : String :=
  let cs := s.toList
  let quote := quoteFor cs
  String.ofList (quote :: cs.flatMap (escaped quote) ++ [quote])

/-- A single quote alone asks for double quotes; with a double quote beside it, it is escaped. -/
example : quoteFor ['i', '\x27'] = '"' ∧ quoteFor ['"', '\x27'] = '\x27' ∧ quoteFor [] = '\x27' := by
  decide

/-- What has no visible form is shown by number. -/
example : escaped '"' '\x07' = ['\\', 'x', '0', '7'] ∧
    escaped '"' '\u2028' = ['\\', 'u', '2', '0', '2', '8'] := by decide +kernel

end Text
end DebugLabels
