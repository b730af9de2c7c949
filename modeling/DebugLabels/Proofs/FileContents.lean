import DebugLabels.Files

/-!
# What files hold after one is written

A file system is looked at by what its paths lead to: `Files.content?` is the content of the file at
a path, if there is one.  A file that is written stands where no directory is, and nothing else is
touched, so a path can be followed after it exactly if it could be followed before, and to the same
place (`followFrom_put_eq_ok_iff`).

The main statement is `hasWritten_of_write`: the path holds what was written, and every path that
leads elsewhere holds what it held.
-/

namespace DebugLabels
namespace Files

variable {files files' : Files} {place : Place} {path : Path} {content : ByteArray}

/-- The content of the file that a path leads to, if it leads to one. -/
def content? (files : Files) (path : Path) : Option ByteArray := (files.read path).toOption

/-- One file system comes from another by writing one file: the path holds the content, and every
path that leads elsewhere holds what it held, if it held anything. -/
structure HasWritten (files files' : Files) (path : Path) (content : ByteArray) : Prop where
  written : files'.content? path = some content
  others : ∀ other, files.follow other ≠ files.follow path →
    files'.content? other = files.content? other

/-- Where no directory is, something can be put. -/
theorem isGiven_eq_false (h : files.node? place ≠ some .directory) : place.isGiven = false := by
  cases hgiven : place.isGiven with
  | false => rfl
  | true => exact absurd (if_pos hgiven) h

/-- Writing succeeds exactly where a path leads to a place that is no directory. -/
theorem write_eq_ok_iff :
    files.write path content = .ok files' ↔
      ∃ place, files.follow path = .ok place ∧ files.node? place ≠ some .directory ∧
        files' = files.put place (.file content) := by
  unfold write
  cases files.follow path with
  | error reason => simp
  | ok place =>
    rcases hnode : files.node? place with _ | _ | before
    · simp [hnode, eq_comm]
    · simp [hnode]
    · simp [hnode, eq_comm]

/-- **Paths lead where they led** after a file is put at a place that is no directory: a path does
not go through the place, before or after. -/
theorem followFrom_put_eq_ok_iff (hplace : files.node? place ≠ some .directory)
    {here there : Place} {parts : List String} :
    (files.put place (.file content)).followFrom here parts = .ok there ↔
      files.followFrom here parts = .ok there := by
  induction parts generalizing here with
  | nil => rfl
  | cons part rest ih =>
    unfold followFrom
    rw [node?_put files (isGiven_eq_false hplace)]
    by_cases hhere : here = place
    -- neither the file that is put there nor what was there before is a directory to go on from
    · subst hhere
      rw [if_pos rfl]
      rcases hnode : files.node? here with _ | _ | before
      · simp
      · exact absurd hnode hplace
      · simp
    · rw [if_neg hhere]
      rcases files.node? here with _ | _ | before
      · simp
      · dsimp only
        split
        · simp
        · exact ih
      · simp

theorem follow_put_eq_ok_iff (hplace : files.node? place ≠ some .directory) {there : Place} :
    (files.put place (.file content)).follow path = .ok there ↔ files.follow path = .ok there := by
  unfold follow
  split
  · simp
  · split
    · simp
    · exact followFrom_put_eq_ok_iff hplace

/-- A path holds a content exactly if it leads to a file with it. -/
theorem content?_eq_some_iff :
    files.content? path = some content ↔
      ∃ place, files.follow path = .ok place ∧ files.node? place = some (.file content) := by
  unfold content? read
  cases files.follow path with
  | error reason => simp [Except.toOption]
  | ok place =>
    rcases hnode : files.node? place with _ | _ | before <;> simp [hnode, Except.toOption]

/-- The paths that lead to the place hold what is put there. -/
theorem content?_put_of_follow_eq (hplace : files.node? place ≠ some .directory)
    (hpath : files.follow path = .ok place) :
    (files.put place (.file content)).content? path = some content := by
  rw [content?_eq_some_iff]
  refine ⟨place, (follow_put_eq_ok_iff hplace).2 hpath, ?_⟩
  rw [node?_put files (isGiven_eq_false hplace), if_pos rfl]

/-- The paths that lead elsewhere hold what they held. -/
theorem content?_put_of_follow_ne (hplace : files.node? place ≠ some .directory) {other : Path}
    (hother : files.follow other ≠ .ok place) :
    (files.put place (.file content)).content? other = files.content? other := by
  refine Option.ext fun held => ?_
  rw [content?_eq_some_iff, content?_eq_some_iff]
  refine exists_congr fun there => ?_
  rw [follow_put_eq_ok_iff hplace]
  refine and_congr_right fun hthere => ?_
  have hne : there ≠ place := fun h => hother (hthere.trans (congrArg Except.ok h))
  rw [node?_put files (isGiven_eq_false hplace), if_neg hne]

/-- **Writing a file changes this file and no other.** -/
theorem hasWritten_of_write (h : files.write path content = .ok files') :
    files.HasWritten files' path content := by
  obtain ⟨place, hpath, hplace, rfl⟩ := write_eq_ok_iff.1 h
  exact {
    written := content?_put_of_follow_eq hplace hpath
    others := fun other hother => content?_put_of_follow_ne hplace (hpath ▸ hother) }

end Files
end DebugLabels
