import DebugLabels.Text.Split

/-!
# Paths

A path is kept in a normal form: its root, if it has one, and its parts. Empty parts and `.` do not
count; `..` is a part like any other. A path without root and parts is `.`.

| text | path |
| --- | --- |
| `sub//./a.dbg/` | `sub/a.dbg` |
| the empty text, `./` | `.` |
| `//a` | `//a` |
| `///a` | `/a` |

The last part is the path's name. Its suffix starts at its last dot, unless that dot is the first or
the last character of the name. `withSuffix?` puts another suffix in its place.
-/

namespace DebugLabels

/-- A path in normal form. -/
structure Path where
  root : String
  parts : List String
  deriving DecidableEq, Repr

namespace Path

/-- The root of a text: one slash, or two if the text starts with exactly two. -/
def rootOf (cs : List Char) : String :=
  match (cs.takeWhile (· = '/')).length with
  | 0 => ""
  | 2 => "//"
  | _ => "/"

/-- The parts of a text that count. -/
def partsOf (cs : List Char) : List String :=
  ((Text.splitOn '/' cs).map String.ofList).filter fun part => part ≠ "" ∧ part ≠ "."

/-- The path of a text. -/
def ofText (text : String) : Path := ⟨rootOf text.toList, partsOf text.toList⟩

/-- The text of a path. -/
def text (path : Path) : String :=
  if path.root = "" ∧ path.parts = [] then "." else path.root ++ "/".intercalate path.parts

/-- The path holds the character U+0000, which no file's path does. -/
def holdsNull (path : Path) : Bool := path.parts.any fun part => part.toList.contains '\x00'

/-- The last part, if there is one, and else the empty text. -/
def name (path : Path) : String := path.parts.getLast?.getD ""

/-- A name without its suffix. -/
def stem (name : List Char) : List Char :=
  let reversed := name.reverse
  match reversed.takeWhile (· ≠ '.'), reversed.dropWhile (· ≠ '.') with
  | _ :: _, '.' :: c :: before => (c :: before).reverse
  | _, _ => name

/-- The path with another suffix to its name, if it has a name. -/
def withSuffix? (path : Path) (suffix : String) : Option Path :=
  match path.parts.getLast? with
  | none => none
  | some name =>
    some { path with parts := path.parts.dropLast ++ [String.ofList (stem name.toList) ++ suffix] }

/-- The suffix starts at the last dot; a dot at either end starts none. -/
example : stem ['a', '.', 'b', '.', 'c'] = ['a', '.', 'b'] ∧ stem ['.', 'b'] = ['.', 'b'] ∧
    stem ['a', '.'] = ['a', '.'] ∧ stem ['a', '.', '.', 'b'] = ['a', '.'] := by decide

end Path
end DebugLabels
