import DebugLabels.Record.Entry

/-!
# Segments, spans, scopes and source files

A *segment* is a contiguous part of the memory map. One with an output offset (`ooffs`) was written
to the ROM image at that offset; RAM has none. A *span* is a part of one segment. A *scope* covers
one or more spans, listed in any order. A *source file* is kept and not used further.
-/

namespace DebugLabels

/-- A segment. -/
abbrev Segment := Entry .segment

namespace Segment

/-- The name. -/
def name (segment : Segment) : Option String := segment.get? "name"

/-- The address at which the segment starts. -/
def start (segment : Segment) : Except Failure Int := segment.number .hexadecimal "start"

/-- The number of bytes. -/
def size (segment : Segment) : Except Failure Int := segment.number .hexadecimal "size"

/-- The segment was written to the image. -/
def isInImage (segment : Segment) : Bool := segment.has "ooffs"

/-- The offset in the image. -/
def imageOffset (segment : Segment) : Except Failure Int := segment.number .decimal "ooffs"

/-- The name of the image. -/
def imageName (segment : Segment) : Option String := segment.get? "oname"

end Segment

/-- A part of a segment. -/
abbrev Span := Entry .span

namespace Span

/-- The id of the segment. -/
def segmentId (span : Span) : Except Failure Int := span.number .decimal "seg"

/-- The start within the segment. -/
def start (span : Span) : Except Failure Int := span.number .decimal "start"

/-- The number of bytes. -/
def size (span : Span) : Except Failure Int := span.number .decimal "size"

end Span

/-- A lexical scope. -/
abbrev Scope := Entry .scope

namespace Scope

/-- The name. -/
def name (scope : Scope) : Option String := scope.get? "name"

/-- The ids of the spans that the scope covers, at least one, in the order of the list. -/
def spanIds (scope : Scope) : Except Failure (List Int) := do
  let ids ← scope.idList "span"
  if ids.isEmpty then throw (scope.malformed (.spanListEmpty scope.id))
  return ids

/-- The least of a list of numbers. -/
def least (ids : List Int) : Int := ids.min?.getD 0

/-- The span that stands for the scope: the one with the least id. -/
def lowestSpanId (scope : Scope) : Except Failure Int := least <$> spanIds scope

/-- The least number is the one of the list that no number of the list is smaller than. -/
theorem least_eq_iff {ids : List Int} {n : Int} (h : ids ≠ []) :
    least ids = n ↔ n ∈ ids ∧ ∀ m ∈ ids, n ≤ m := by
  obtain ⟨m, hm⟩ := Option.isSome_iff_exists.1 (List.isSome_min?_of_ne_nil h)
  rw [← List.min?_eq_some_iff]
  simp [least, hm]

/-- The list may be in any order and hold a number more than once. -/
example : least [4, -1, 7, -1] = -1 := by decide

end Scope

/-- A source file. -/
abbrev SourceFile := Entry .file

namespace SourceFile

/-- The name. -/
def name (file : SourceFile) : Option String := file.get? "name"

/-- The number of bytes. -/
def size (file : SourceFile) : Except Failure Int := file.number .decimal "size"

/-- The time of the last change. -/
def modified (file : SourceFile) : Except Failure Int := file.number .hexadecimal "mtime"

end SourceFile
end DebugLabels
