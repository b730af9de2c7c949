import DebugLabels.Record.Entry

/-!
# Symbols

A symbol of the assembled program. It is a label if its type is `lab`. It names the scope it belongs
to, or a parent symbol whose scope it shares.
-/

namespace DebugLabels

/-- A symbol. -/
abbrev Symbol := Entry .symbol

namespace Symbol

/-- The name; an empty one is none. -/
def name (symbol : Symbol) : Option String := nonEmpty? (symbol.get? "name")

/-- What sort of symbol it is, as written. -/
def type (symbol : Symbol) : Option String := symbol.get? "type"

/-- The symbol is a label. -/
def isLabel (symbol : Symbol) : Bool := type symbol == some "lab"

/-- The address. -/
def value (symbol : Symbol) : Except Failure Int := symbol.number .hexadecimal "val"

/-- The id of the scope that the symbol names. -/
def scopeId (symbol : Symbol) : Except Failure (Option Int) := symbol.decimalIfPresent "scope"

/-- The id of the parent that the symbol names. -/
def parentId (symbol : Symbol) : Except Failure (Option Int) := symbol.decimalIfPresent "parent"

/-- The number of bytes that the symbol covers. -/
def size (symbol : Symbol) : Except Failure (Option Int) := symbol.decimalIfPresent "size"

/-- The comment, which may be empty. -/
def comment (symbol : Symbol) : Option String := symbol.get? "comment"

/-- How errors and notices speak of the symbol: by name and id, or by id. -/
def mention (symbol : Symbol) : Mention := .symbol (name symbol) symbol.id

/-- The symbol as it is spoken of, in words; its id may be too long to be written. -/
def describe? (symbol : Symbol) : Except Failure String :=
  if Numeral.IsWritable symbol.id then .ok (mention symbol).shown else .error .digitLimit

end Symbol
end DebugLabels
