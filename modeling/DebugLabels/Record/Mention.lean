import DebugLabels.Numeral
import DebugLabels.Record.Kind

/-!
# How entries are spoken of

An error and a notice speak of a symbol by its name and its id, or by its id if it has no name, and
of any other entry by its table and its id:

    sym 'main' (id 3)
    sym 3
    scope 7
-/

namespace DebugLabels

/-- How an error or a notice speaks of an entry. -/
inductive Mention
  | symbol (name : Option String) (id : Int)
  | entry (table : Table) (id : Int)
  /-- In words. -/
  | words (text : String)
  deriving DecidableEq, Repr

namespace Mention

/-- The entry as it is spoken of. -/
def shown : Mention → String
  | symbol (some name) id => "sym '" ++ name ++ "' (id " ++ Numeral.decimal id ++ ")"
  | symbol none id => "sym " ++ Numeral.decimal id
  | entry table id => table.name ++ " " ++ Numeral.decimal id
  | words text => text

/-- The numbers that it shows in decimal. -/
def numbers : Mention → List Int
  | symbol _ id | entry _ id => [id]
  | words _ => []

/-- Every number that it shows can be written in decimal. -/
def IsWritable (mention : Mention) : Prop := ∀ n ∈ mention.numbers, Numeral.IsWritable n

@[simp] theorem isWritable_symbol_iff {name : Option String} {id : Int} :
    (symbol name id).IsWritable ↔ Numeral.IsWritable id := by simp [IsWritable, numbers]

@[simp] theorem isWritable_entry_iff {table : Table} {id : Int} :
    (entry table id).IsWritable ↔ Numeral.IsWritable id := by simp [IsWritable, numbers]

@[simp] theorem isWritable_words (text : String) : (words text).IsWritable := by
  simp [IsWritable, numbers]

/-- A caller speaks of an entry in words. -/
instance : Coe (Option String) (Option Mention) := ⟨Option.map words⟩

end Mention
end DebugLabels
