/-!
# Where a record stands

A record that was read from a file has a location: the file's name and the number of the line. It is
shown as `cart.dbg:42`.
-/

namespace DebugLabels

/-- A line of a debug file. Lines count from 1. -/
structure Location where
  file : String
  line : Int
  deriving DecidableEq, Repr

/-- The name a text that is in no file goes by. -/
def Location.noFile : String := "<input>"

end DebugLabels
