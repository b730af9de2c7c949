import DebugLabels.Conversion
import DebugLabels.Proofs.ConversionErrors
import DebugLabels.Proofs.FileContents

/-!
# A conversion as a function of the files

`convertFile` reads and writes by way of a `Disk`.  On files that are a value it computes a
function: `Files.convert` gives the listing and the files after it, or else the failure, and no files
in between (`run_convertFile`).  So a conversion that fails leaves the files as they were, and one
that succeeds changes at most the label file (`hasWritten_or_eq_of_convertFile`).

Nothing of this is a matter of how the command was called (`failsOnly_convert`).
-/

namespace DebugLabels

theorem ok_bind {ε α β : Type} (a : α) (next : α → Except ε β) :
    (Except.ok a >>= next) = next a := rfl

/-- What is written as UTF-8 is read back. -/
theorem Text.ofUtf8_toUTF8 (s : String) : Text.ofUtf8 s.toUTF8 = s := by
  unfold Text.ofUtf8 String.fromUTF8?
  rw [dif_pos (show s.toUTF8.IsValidUTF8 from s.isValidUTF8)]
  rfl

namespace Failure

/-- The failure is not about the way the command was called. -/
def IsNoUsage (failure : Failure) : Prop := ∀ message, failure ≠ .usage message

theorem isNoUsage_ofError (e : Error) : (ofError e).IsNoUsage := by
  intro message
  unfold ofError
  split <;> simp

theorem isNoUsage_fileFailure (action : FileAction) (path : Path) (reason : FileReason) :
    (fileFailure action path reason).IsNoUsage := by
  cases reason with
  | nullCharacter => exact fun message => by simp [fileFailure]
  | _ => exact isNoUsage_ofError _

end Failure

namespace Files

variable {files saved : Files} {input : Path} {output : Option Path} {settings : Settings}
  {listing : Listing} {lines : List String}

/-- What a conversion lists, before anything is written. -/
def listingOf (files : Files) (input : Path) (settings : Settings) : Logged Listing := do
  let store ← storeOfFile input (files.read input)
  store.listing settings

/-- The files after the lines of a label file are written, if one is wanted. -/
def save (files : Files) (lines : List String) : Option Path → Except Failure Files
  | none => .ok files
  | some path =>
    match files.write path (Listing.fileText lines).toUTF8 with
    | .ok saved => .ok saved
    | .error reason => .error (fileFailure .writeLabelFile path reason)

/-- What a conversion comes to: the listing and the files after it, or its failure. -/
def convert (files : Files) (input : Path) (output : Option Path) (settings : Settings) :
    Except Failure (Listing × Files) := do
  let listing ← (files.listingOf input settings).outcome
  let saved ← files.save listing.lines output
  return (listing, saved)

theorem convert_eq_ok_iff :
    files.convert input output settings = .ok (listing, saved) ↔
      (files.listingOf input settings).outcome = .ok listing ∧
        files.save listing.lines output = .ok saved := by
  simp only [convert, bind_eq_ok_iff, pure_eq_ok_iff, Prod.mk.injEq]
  constructor
  · rintro ⟨_, hlisting, _, hsaved, rfl, rfl⟩
    exact ⟨hlisting, hsaved⟩
  · rintro ⟨hlisting, hsaved⟩
    exact ⟨listing, hlisting, saved, hsaved, rfl, rfl⟩

/-- A label file that is saved is written. -/
theorem hasWritten_of_save {path : Path} (h : files.save lines (some path) = .ok saved) :
    files.HasWritten saved path (Listing.fileText lines).toUTF8 := by
  unfold save at h
  cases hwrite : files.write path (Listing.fileText lines).toUTF8 with
  | error reason => simp only [hwrite, reduceCtorEq] at h
  | ok written =>
    simp only [hwrite, Except.ok.injEq] at h
    exact h ▸ hasWritten_of_write hwrite

/-- Reading leaves the files as they are. -/
theorem run_readDebugFile (files : Files) (path : Path) :
    (readDebugFile disk path).run files = pure (storeOfFile path (files.read path), files) := rfl

/-- Writing a label file gives the files after it, or leaves them as they are. -/
theorem run_writeLabelFile (files : Files) (lines : List String) (path : Path) :
    (writeLabelFile disk lines path).run files =
      match files.save lines (some path) with
      | .ok saved => (Logged.note (.wrote path.text), saved)
      | .error failure => (Logged.ofExcept (.error failure), files) := by
  have hrun : (writeLabelFile disk lines path).run files =
      let written := (disk.write path (Listing.fileText lines).toUTF8).run files
      (labelFileWritten path written.1, written.2) := rfl
  have hwrite : (disk.write path (Listing.fileText lines).toUTF8).run files =
      match files.write path (Listing.fileText lines).toUTF8 with
      | .ok saved => (Except.ok (), saved)
      | .error reason => (Except.error reason, files) := by
    show (match files.write path (Listing.fileText lines).toUTF8 with
      | .ok saved => (do set saved; return Except.ok () : StateM Files (Except FileReason Unit))
      | .error reason => return Except.error reason).run files = _
    cases files.write path (Listing.fileText lines).toUTF8 <;> rfl
  rw [hrun, hwrite, save]
  cases files.write path (Listing.fileText lines).toUTF8 <;> rfl

/-- **A conversion computes this function** of the files that are there.  One that fails has told no
more than its listing did. -/
theorem run_convertFile (files : Files) (input : Path) (output : Option Path)
    (settings : Settings) : ∃ notices,
    (convertFile disk input output settings).run files =
      match files.convert input output settings with
      | .ok (listing, saved) => (⟨notices, .ok listing⟩, saved)
      | .error failure => (⟨(files.listingOf input settings).notices, .error failure⟩, files) := by
  unfold convertFile convert listingOf
  rw [StateT.run_bind, run_readDebugFile, pure_bind]
  dsimp only
  generalize (storeOfFile input (files.read input) >>= fun store => store.listing settings) = listed
  obtain ⟨told, failure | complete⟩ := listed
  · exact ⟨[], rfl⟩
  · cases output with
    | none => exact ⟨_, rfl⟩
    | some path =>
      dsimp only
      rw [ok_bind, StateT.run_bind, run_writeLabelFile]
      cases files.save complete.lines (some path) with
      | ok saved => exact ⟨told ++ [.wrote path.text, .converted input.name complete.describe], rfl⟩
      | error failure =>
        refine ⟨[], ?_⟩
        show ((⟨told ++ [], .error failure⟩ : Logged Listing), files) = _
        rw [List.append_nil]
        rfl

/-- Without a label file the outcome is that of the listing. -/
theorem outcome_run_convertFile_none (files : Files) (input : Path) (settings : Settings) :
    ((convertFile disk input none settings).run files).1.outcome =
      (files.listingOf input settings).outcome := by
  obtain ⟨notices, hrun⟩ := run_convertFile files input none settings
  have hconvert : files.convert input none settings =
      (files.listingOf input settings).outcome.map fun listing => (listing, files) := by
    unfold convert save
    cases (files.listingOf input settings).outcome <;> rfl
  rw [hrun, hconvert]
  cases (files.listingOf input settings).outcome <;> rfl

/-- **A conversion writes all or nothing**: the whole label file, if it succeeds and one is wanted,
and no other file. -/
theorem hasWritten_or_eq_of_convertFile (files : Files) (input : Path) (output : Option Path)
    (settings : Settings) :
    let after := (convertFile disk input output settings).run files
    match after.1.outcome, output with
    | .ok listing, some path =>
      files.HasWritten after.2 path (Listing.fileText listing.lines).toUTF8
    | _, _ => after.2 = files := by
  obtain ⟨notices, hrun⟩ := run_convertFile files input output settings
  rw [hrun]
  cases hconvert : files.convert input output settings with
  | error failure => rfl
  | ok converted =>
    obtain ⟨listing, saved⟩ := converted
    obtain ⟨-, hsave⟩ := convert_eq_ok_iff.1 hconvert
    cases output with
    | none => exact (Except.ok.inj hsave).symm
    | some path => exact hasWritten_of_save hsave

/-! ### What is read of a file -/

/-- A file is read as the text that it holds. -/
theorem outcome_storeOfFile (path : Path) (content : Except FileReason ByteArray) :
    (storeOfFile path content).outcome =
      match content with
      | .error reason => .error (fileFailure .readDebugFile path reason)
      | .ok content =>
        (Store.ofText (String.ofList (debugFileText content)) path.name).outcome := by
  cases content with
  | error reason => rfl
  | ok content =>
    unfold storeOfFile Store.ofText
    rw [Logged.outcome_bind, Logged.outcome_note]
    dsimp only
    rw [String.toList_ofList]
    rfl

/-- **A file that holds a text is listed as the text is.** -/
theorem outcome_listingOf_of_read {text : String} (h : files.read input = .ok text.toUTF8)
    (settings : Settings) :
    (files.listingOf input settings).outcome =
      (Store.listingOfText (String.ofList (Text.unifyLineEnds text.toList)) input.name
        settings).outcome := by
  unfold listingOf Store.listingOfText
  rw [Logged.outcome_bind, Logged.outcome_bind, h, outcome_storeOfFile]
  dsimp only
  rw [debugFileText, Text.ofUtf8_toUTF8]

/-! ### The failures of a conversion -/

theorem failsOnly_listingOf (files : Files) (input : Path) (settings : Settings) :
    FailsOnly Failure.IsNoUsage (files.listingOf input settings).outcome := by
  unfold listingOf
  rw [Logged.outcome_bind, outcome_storeOfFile]
  refine FailsOnly.bind ?_ fun store _ failure hlisting => ?_
  · cases files.read input with
    | error reason => exact .error (Failure.isNoUsage_fileFailure _ _ reason)
    | ok content =>
      intro failure htext
      obtain ⟨_, -, e, -, rfl⟩ := Store.exists_isAboutRecord_of_ofText htext
      exact Failure.isNoUsage_ofError e
  · obtain ⟨_, -, e, -, rfl⟩ := Store.exists_labelBreaks_of_listing hlisting
    exact Failure.isNoUsage_ofError e

/-- **No failure of a conversion is about the way the command was called.** -/
theorem failsOnly_convert (files : Files) (input : Path) (output : Option Path)
    (settings : Settings) : FailsOnly Failure.IsNoUsage (files.convert input output settings) := by
  refine (failsOnly_listingOf files input settings).bind fun listing _ => ?_
  refine FailsOnly.bind ?_ fun saved _ => .ok _
  cases output with
  | none => exact .ok files
  | some path =>
    unfold save
    dsimp only
    cases files.write path (Listing.fileText listing.lines).toUTF8 with
    | ok saved => exact .ok saved
    | error reason => exact .error (Failure.isNoUsage_fileFailure _ _ reason)

end Files
end DebugLabels
