import DebugLabels.Error
import DebugLabels.Text.Quoted

/-!
# How a step fails

A step that fails ends in a `Failure`: an error of the conversion, a fault in how the command was
called, or a fault that the conversion has no error for. Of the last sort is an error that cannot be
put into words because it shows a number with more decimal digits than a numeral may have:
`Failure.ofError` gives an error if it can be worded and `Failure.digitLimit` if not
(`ofError_eq_error_iff`).
-/

namespace DebugLabels

/-- Why a step failed. -/
inductive Failure
  | error (error : Error)
  /-- A number has too many digits to be written in decimal. -/
  | digitLimit
  /-- A path that has no last part is given a new ending. -/
  | emptyName (path : String)
  /-- The command was called in a wrong way. -/
  | usage (message : String)
  /-- Any other fault, in words. -/
  | internal (message : String)
  deriving DecidableEq, Repr

namespace Failure

/-- The failure that an error ends in. -/
def ofError (error : Error) : Failure := if error.IsWritable then .error error else .digitLimit

/-- The failure in words. -/
def message : Failure → String
  | error e => e.message
  | digitLimit =>
    "Exceeds the limit (4300 digits) for integer string conversion; " ++
      "use sys.set_int_max_str_digits() to increase the limit"
  | emptyName path => "PosixPath(" ++ Text.quoted path ++ ") has an empty name"
  | usage message | internal message => message

theorem ofError_of_isWritable {e : Error} (h : e.IsWritable) : ofError e = .error e := if_pos h

/-- An error stays what it is exactly if its numbers can be written. -/
theorem ofError_eq_error_iff {e e' : Error} :
    ofError e = .error e' ↔ e = e' ∧ e.IsWritable := by
  unfold ofError
  split <;> rename_i h
  · simp [h]
  · simp [h]

end Failure
end DebugLabels
