import DebugLabels.Path

/-!
# Files and directories

`Disk` is what a conversion needs of a file system: to ask whether a path leads to a directory, to
read a file and to write one, each in some monad `m`.

`Files` is a file system as a value: directories and files under their places. A place is the list
of names that lead to it from the working directory, with `..` for each step above it and with `/`
in front if it starts from the root. A path is followed part by part (`Files.follow`); every part
but the last must be a directory. What is above the working directory is a directory, and nothing
else is known there.

No path holds the character U+0000. A part has at most `partLimit` bytes, a path at most
`pathLimit`.
-/

namespace DebugLabels

/-- Why a file cannot be opened. -/
inductive FileReason
  | notFound
  | isDirectory
  | notDirectory
  | nameTooLong
  /-- The path holds the character U+0000. -/
  | nullCharacter
  /-- Any other reason, in words. -/
  | other (reason : String)
  deriving DecidableEq, Repr

/-- The reason in words. -/
def FileReason.text : FileReason → String
  | notFound => "No such file or directory"
  | isDirectory => "Is a directory"
  | notDirectory => "Not a directory"
  | nameTooLong => "File name too long"
  | nullCharacter => "embedded null byte"
  | other reason => reason

/-- The use of a file system. -/
structure Disk (m : Type → Type) where
  isDirectory : String → m Bool
  read : Path → m (Except FileReason ByteArray)
  write : Path → ByteArray → m (Except FileReason Unit)

/-- What is at a place. -/
inductive Node
  | directory
  | file (content : ByteArray)

/-- The names that lead to a place. -/
abbrev Place := List String

/-- A file system: what is at the places below the working directory and elsewhere. -/
structure Files where
  nodes : List (Place × Node)

namespace Place

/-- The working directory, a directory above it, or the root. -/
def isGiven (place : Place) : Bool := place.all (· == "..") || place == ["/"]

/-- The directory that holds a place; the root holds itself. -/
def parent (place : Place) : Place :=
  if place.all (· == "..") then place ++ [".."]
  else if place = ["/"] then place
  else place.dropLast

/-- The place one part further. -/
def enter (place : Place) (part : String) : Place :=
  if part = ".." then parent place else place ++ [part]

end Place

namespace Files

/-- Nothing but the working directory. -/
def empty : Files := ⟨[]⟩

/-- What is at a place. -/
def node? (files : Files) (place : Place) : Option Node :=
  if place.isGiven then some .directory else files.nodes.lookup place

/-- Put something at a place, instead of what was there. -/
def putNode (place : Place) (node : Node) : List (Place × Node) → List (Place × Node)
  | [] => [(place, node)]
  | (other, there) :: rest =>
    if other = place then (place, node) :: rest else (other, there) :: putNode place node rest

/-- The file system with something put at a place. -/
def put (files : Files) (place : Place) (node : Node) : Files := ⟨putNode place node files.nodes⟩

theorem lookup_putNode (place other : Place) (node : Node) (nodes : List (Place × Node)) :
    (putNode place node nodes).lookup other =
      if other = place then some node else nodes.lookup other := by
  induction nodes with
  | nil => by_cases h : other = place <;> simp [putNode, List.lookup_cons, h, beq_false_of_ne]
  | cons pair nodes ih =>
    obtain ⟨p, n⟩ := pair
    by_cases hp : p = place
    · subst hp
      by_cases h : other = p <;> simp [putNode, List.lookup_cons, h, beq_false_of_ne]
    · by_cases h : other = p
      · subst h
        simp [putNode, hp]
      · simp [putNode, hp, List.lookup_cons, beq_false_of_ne h, ih]

/-- What was put is there, and everything else is as it was. -/
theorem node?_put (files : Files) {place : Place} (h : place.isGiven = false) (node : Node)
    (other : Place) :
    (files.put place node).node? other = if other = place then some node else files.node? other := by
  unfold node?
  by_cases ho : other = place
  · subst ho
    simp [h, put, lookup_putNode]
  · simp [put, lookup_putNode, ho]

/-- The greatest number of bytes in a part of a path. -/
def partLimit : Nat := 255

/-- The greatest number of bytes in a path. -/
def pathLimit : Nat := 4095

/-- Follow parts from a place. Each part is entered from a directory. -/
def followFrom (files : Files) : Place → List String → Except FileReason Place
  | here, [] => .ok here
  | here, part :: rest =>
    match files.node? here with
    | some .directory =>
      if partLimit < part.utf8ByteSize then .error .nameTooLong
      else followFrom files (here.enter part) rest
    | some (.file _) => .error .notDirectory
    | none => .error .notFound

/-- The place that a path leads to. -/
def follow (files : Files) (path : Path) : Except FileReason Place :=
  if path.holdsNull then .error .nullCharacter
  else if pathLimit < path.text.utf8ByteSize then .error .nameTooLong
  else files.followFrom (if path.root = "" then [] else ["/"]) path.parts

/-- The content of the file that a path leads to. -/
def read (files : Files) (path : Path) : Except FileReason ByteArray :=
  match files.follow path with
  | .error reason => .error reason
  | .ok place =>
    match files.node? place with
    | some (.file content) => .ok content
    | some .directory => .error .isDirectory
    | none => .error .notFound

/-- The file system after a file is written, new or instead of the one that was there. -/
def write (files : Files) (path : Path) (content : ByteArray) : Except FileReason Files :=
  match files.follow path with
  | .error reason => .error reason
  | .ok place =>
    match files.node? place with
    | some .directory => .error .isDirectory
    | _ => .ok (files.put place (.file content))

/-- A text leads to a directory; the empty text leads nowhere, and so does one that is too long
before it is brought into normal form. -/
def isDirectory (files : Files) (text : String) : Bool :=
  text ≠ "" && text.utf8ByteSize ≤ pathLimit &&
    match files.follow (Path.ofText text) with
    | .error _ => false
    | .ok place =>
      match files.node? place with
      | some .directory => true
      | _ => false

/-- The use of a file system that is a value. -/
def disk : Disk (StateM Files) where
  isDirectory text := return (← get).isDirectory text
  read path := return (← get).read path
  write path content := do
    match (← get).write path content with
    | .ok files => set files; return .ok ()
    | .error reason => return .error reason

end Files

/-- The action leaves all files as they are. -/
def LeavesFiles {α : Type} (action : StateM Files α) : Prop :=
  ∀ files, (action.run files).2 = files

namespace LeavesFiles

variable {α β : Type}

theorem pure (value : α) : LeavesFiles (pure value) := fun _ => rfl

theorem bind {first : StateM Files α} {next : α → StateM Files β} (hfirst : LeavesFiles first)
    (hnext : ∀ value, LeavesFiles (next value)) : LeavesFiles (first >>= next) := by
  intro files
  calc ((first >>= next).run files).2
      = ((next (first.run files).1).run (first.run files).2).2 := rfl
    _ = (first.run files).2 := hnext _ _
    _ = files := hfirst files

end LeavesFiles
end DebugLabels
