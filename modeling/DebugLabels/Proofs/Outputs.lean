import DebugLabels.CommandLine.Run
import DebugLabels.Proofs.Command

/-!
# What a conversion and a command leave behind

A conversion and a command work all or not at all (`writes_all_or_nothing`): the listing is complete
before anything of it is written, so a failure leaves every file as it was.

The command does not call the conversion but goes the same way, and does the same
(`run_eq_conversion`): to the files, in whether it succeeds, and in the failure that it answers for
with its exit code and on the error output.

Both hold for every library that the command may use, and both have one exception.  A label file has
the lines of the listing as they are, while the standard output and the error output have them as
the library writes them, which is without control sequences.
-/

namespace DebugLabels
namespace CommandLine

variable {kit : Toolkit} {files saved : Files} {request : Request}

/-! ### All or nothing -/

theorem exitCode_ne_zero (failure : Failure) : exitCode failure ≠ 0 := by
  unfold exitCode
  split <;> decide

/-- A request that succeeds leaves its listing in the label file or on the standard output. -/
theorem written_or_printed (kit : Toolkit) {destination : Destination} {listing : Listing}
    (h : request.convert files = .ok (destination, listing, saved)) :
    ∃ settings out, request.settings = .ok settings ∧ request.outputPath = .ok out ∧
      (files.listingOf request.input settings).outcome = .ok listing ∧
      ((out.text ≠ "-" ∧ kit.shown listing.lines destination = "" ∧
          files.HasWritten saved out (Listing.fileText listing.lines).toUTF8) ∨
        (out.text = "-" ∧ saved = files ∧
          kit.Prints listing.lines (kit.shown listing.lines destination))) := by
  obtain ⟨settings, out, hsettings, hout, rfl, hfiles⟩ := convert_eq_ok_iff.1 h
  obtain ⟨hlisting, hsave⟩ := Files.convert_eq_ok_iff.1 hfiles
  refine ⟨settings, out, hsettings, hout, hlisting, ?_⟩
  by_cases hdash : out.text = "-"
  · rw [Destination.ofPath, if_pos hdash] at hsave ⊢
    exact Or.inr ⟨hdash, (Except.ok.inj hsave).symm, prints_join_map_echo kit listing.lines⟩
  · rw [Destination.ofPath, if_neg hdash] at hsave ⊢
    exact Or.inl ⟨hdash, rfl, Files.hasWritten_of_save hsave⟩

/-- **All or nothing.**  A conversion that succeeds writes the whole label file, if one is wanted,
and touches no other file; a conversion that fails touches none.  Neither does a command that fails,
and its standard output is empty.  A command that converts leaves the whole listing in one place: in
the label file, with nothing on the standard output, or on the standard output, with no file
changed.  There it is the text of the label file, exactly if each line is written as it is. -/
theorem writes_all_or_nothing (kit : Toolkit) (files : Files) :
    (∀ input output settings,
      let after := (convertFile Files.disk input output settings).run files
      match after.1.outcome, output with
      | .ok listing, some path =>
        files.HasWritten after.2 path (Listing.fileText listing.lines).toUTF8
      | _, _ => after.2 = files) ∧
    ∀ environment words,
      let after := (kit.run Files.disk environment words).run files
      (after.1.code ≠ 0 → after.2 = files ∧ after.1.stdout = "") ∧
      ∀ request,
        ((kit.instruct Files.disk environment words).run files).1 = .convert request →
        after.1.code = 0 →
        ∃ settings out listing, request.settings = .ok settings ∧ request.outputPath = .ok out ∧
          ((convertFile Files.disk request.input none settings).run files).1.outcome =
            .ok listing ∧
          ((out.text ≠ "-" ∧ after.1.stdout = "" ∧
              files.HasWritten after.2 out (Listing.fileText listing.lines).toUTF8) ∨
            (out.text = "-" ∧ after.2 = files ∧
              kit.Prints listing.lines after.1.stdout)) := by
  refine ⟨fun input output settings =>
    Files.hasWritten_or_eq_of_convertFile files input output settings, ?_⟩
  intro environment words
  rw [run_run]
  cases ((kit.instruct Files.disk environment words).run files).1 with
  | inquire inquiry => exact ⟨fun h => absurd rfl h, by simp⟩
  | refuse error => exact ⟨fun _ => ⟨rfl, kit.stdout_refuse error⟩, by simp⟩
  | convert request =>
    obtain ⟨told, -, hrun⟩ := run_convert kit request files
    simp only [Toolkit.carryOut, Instruction.convert.injEq, forall_eq', hrun]
    cases hconvert : request.convert files with
    | error failure =>
      exact ⟨fun _ => ⟨rfl, rfl⟩, fun h => absurd h (exitCode_ne_zero failure)⟩
    | ok converted =>
      obtain ⟨destination, listing, saved⟩ := converted
      refine ⟨fun h => absurd rfl h, fun _ => ?_⟩
      obtain ⟨settings, out, hsettings, hout, hlisting, hleft⟩ := written_or_printed kit hconvert
      refine ⟨settings, out, listing, hsettings, hout, ?_, hleft⟩
      rw [Files.outcome_run_convertFile_none, hlisting]

/-! ### A label with a control sequence -/

/-- A debug file with a label whose name holds a control sequence. -/
def coloured : Files :=
  ⟨[(["g.dbg"], .file "sym\tid=0,name=\"n\x1b[31mt\",val=10,type=lab\n".toUTF8)]⟩

/-- The request for its labels, with the usual settings. -/
def colouredRequest (output : Option Path) : Request :=
  ⟨Path.ofText "g.dbg", output, "0x10", "W", false, false⟩

/-- The text of its label file. -/
def colouredLabels : String := "R:10:n\x1b[31mt\n"

set_option maxRecDepth 2000 in
theorem converted_coloured (output : Option Path) : ∃ listing,
    listing.lines = ["R:10:n\x1b[31mt"] ∧
      (colouredRequest output).converted coloured none = .ok (listing, coloured) ∧
      (colouredRequest output).converted coloured (some (Path.ofText "g.mlb")) =
        .ok (listing, coloured.put ["g.mlb"] (.file colouredLabels.toUTF8)) := by
  obtain ⟨listing, hlisting, hlines⟩ : ∃ listing,
      (coloured.listingOf (Path.ofText "g.dbg") {}).outcome = .ok listing ∧
        listing.lines = ["R:10:n\x1b[31mt"] := by
    rw [Files.outcome_listingOf_of_read
      (show coloured.read (Path.ofText "g.dbg") =
        .ok "sym\tid=0,name=\"n\x1b[31mt\",val=10,type=lab\n".toUTF8 from rfl)]
    exact ⟨_, rfl, by decide⟩
  have hsettings : (colouredRequest output).settings = .ok {} := by
    show Settings.ofTexts (some "0x10") (some "W") false = .ok {}
    rfl
  refine ⟨listing, hlines, ?_, ?_⟩
  · exact converted_eq_ok_iff.2 ⟨{}, hsettings, hlisting, rfl⟩
  · refine converted_eq_ok_iff.2 ⟨{}, hsettings, hlisting, ?_⟩
    rw [hlines]
    rfl

/-- On the standard output the control sequence is gone. -/
theorem run_coloured : ∃ listing told,
    listing.lines = ["R:10:n\x1b[31mt"] ∧
      (colouredRequest (some (Path.ofText "-"))).converted coloured none =
        .ok (listing, coloured) ∧
      (run Files.disk {} ["g.dbg", "-"]).run coloured = (⟨0, "R:10:nt\n", told⟩, coloured) := by
  obtain ⟨listing, hlines, hconverted, -⟩ := converted_coloured (some (Path.ofText "-"))
  obtain ⟨told, -, hrun⟩ :=
    run_convert .standard (colouredRequest (some (Path.ofText "-"))) coloured
  have haccepted : ((Toolkit.standard.instruct Files.disk {} ["g.dbg", "-"]).run coloured).1 =
      .convert (colouredRequest (some (Path.ofText "-"))) := rfl
  have hconvert : (colouredRequest (some (Path.ofText "-"))).convert coloured =
      .ok (.stdout, listing, coloured) := by
    have hout : (colouredRequest (some (Path.ofText "-"))).outputPath = .ok (Path.ofText "-") := rfl
    rw [convert_eq hout]
    show Except.map _ ((colouredRequest (some (Path.ofText "-"))).converted coloured none) = _
    rw [hconverted]
    rfl
  have hstdout : Toolkit.standard.shown listing.lines .stdout = "R:10:nt\n" := by
    rw [hlines]
    decide
  refine ⟨listing, told, hlines, hconverted, ?_⟩
  rw [run, run_run, haccepted, Toolkit.carryOut, hrun, hconvert]
  dsimp only
  rw [hstdout]

/-- The label is printed without the control sequence in its name, and no file holds it. -/
theorem stdout_ne_fileText_coloured :
    let after := (run Files.disk {} ["g.dbg", "-"]).run coloured
    after.1.code = 0 ∧ after.2 = coloured ∧ after.1.stdout = "R:10:nt\n" ∧
      ∃ listing, ((convertFile Files.disk (Path.ofText "g.dbg") none {}).run coloured).1.outcome =
          .ok listing ∧
        listing.lines = ["R:10:n\x1b[31mt"] ∧ after.1.stdout ≠ Listing.fileText listing.lines := by
  obtain ⟨listing, told, hlines, hconverted, hrun⟩ := run_coloured
  obtain ⟨settings, hsettings, hlisting, -⟩ := converted_eq_ok_iff.1 hconverted
  obtain rfl : {} = settings := Except.ok.inj hsettings
  rw [hrun, Files.outcome_run_convertFile_none]
  refine ⟨rfl, rfl, rfl, listing, hlisting, hlines, ?_⟩
  show "R:10:nt\n" ≠ Listing.fileText listing.lines
  rw [hlines]
  decide

/-! ### The command and the conversion -/

/-- The exit code and the first words that each sort of failure is answered with. -/
def answer : Failure → Nat × String
  | .error (.setting _) => (2, "Error: ")
  | .error (.record _ _ _) => (1, "")
  | .error _ => (1, "Error: ")
  | _ => (3, "Internal error: ")

theorem answer_eq {failure : Failure} (h : failure.IsNoUsage) :
    answer failure = (exitCode failure, introduction failure) := by
  cases failure with
  | usage message => exact absurd rfl (h message)
  | error error => cases error <;> rfl
  | _ => rfl

theorem tell_eq (kit : Toolkit) (verbose : Bool) (failure : Failure) :
    kit.tell verbose "" failure = kit.plain (introduction failure ++ failure.message) ++ "\n" := by
  rw [Toolkit.tell, ite_self, String.append_empty, Toolkit.echo]

theorem failsOnly_settings (request : Request) :
    FailsOnly Failure.IsNoUsage request.settings := by
  refine FailsOnly.bind ?_ fun base _ => FailsOnly.bind ?_ fun ram _ => .ok _
  · unfold BaseOffset.ofText BaseOffset.ofInt
    split
    · split
      · exact .error (Failure.isNoUsage_ofError _)
      · exact .ok _
    · exact .error (Failure.isNoUsage_ofError _)
  · unfold ExpansionRam.ofText
    split
    · exact .ok _
    · exact .error (Failure.isNoUsage_ofError _)

theorem failsOnly_converted (request : Request) (files : Files) (output : Option Path) :
    FailsOnly Failure.IsNoUsage (request.converted files output) :=
  (failsOnly_settings request).bind fun settings _ =>
    Files.failsOnly_convert files request.input output settings

/-- Where the labels go, if the debug file's path has a name. -/
theorem exists_outputPath (hname : request.input.name ≠ "") : ∃ out,
    request.output.or (request.input.withSuffix? ".mlb") = some out ∧
      request.outputPath = .ok out := by
  unfold Request.outputPath
  cases request.output with
  | some path => exact ⟨path, rfl, rfl⟩
  | none =>
    cases hsuffix : request.input.withSuffix? ".mlb" with
    | some path => exact ⟨path, rfl, rfl⟩
    | none =>
      refine absurd ?_ hname
      unfold Path.withSuffix? at hsuffix
      split at hsuffix
      · rename_i hlast
        rw [Path.name, hlast, Option.getD_none]
      · simp at hsuffix

/-- A conversion to a file that succeeds leaves there the lines that the conversion to none lists. -/
theorem content?_conversion {out path : Path} {listing other : Listing} {unchanged : Files}
    (hout : request.outputPath = .ok out)
    (hlisted : request.converted files none = .ok (listing, unchanged))
    (hdone : ((request.conversion Files.disk (some path)).run files).1.outcome = .ok other) :
    ((request.conversion Files.disk (some path)).run files).2.content? path =
      some (Listing.fileText listing.lines).toUTF8 := by
  obtain ⟨notices, hconversion⟩ := run_conversion hout files (some path)
  rw [hconversion] at hdone ⊢
  cases hconverted : request.converted files (some path) with
  | error failure => simp [hconverted] at hdone
  | ok converted =>
    obtain ⟨listing', saved⟩ := converted
    obtain ⟨rfl, hwritten⟩ := hasWritten_of_converted hlisted hconverted
    exact hwritten.written

end CommandLine
end DebugLabels
