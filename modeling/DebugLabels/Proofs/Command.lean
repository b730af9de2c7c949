import Mathlib.Data.List.Flatten
import DebugLabels.CommandLine.Command
import DebugLabels.Proofs.FileConversion

/-!
# What the command computes

The command prepares, reads, lists and writes by itself, with more to tell in between than a
conversion has.  On files that are a value it computes a function all the same, whatever library it
uses: `Request.convert` gives where the labels go, the listing and the files after it, or else the
failure (`run_convert`).  `Request.converted` is the function of the conversion with the same
settings (`run_conversion`), and the two agree as soon as it is known where the labels go
(`convert_eq`).

The library may write less of a line on the standard output than there is, so the lines there are
the text of a label file exactly if it writes each of them as it is (`join_map_echo_eq_iff`).  It
does if no line holds an escape character (`Toolkit.Prints`).
-/

namespace DebugLabels

namespace CommandLine

variable {kit : Toolkit} {files saved : Files} {request : Request} {out : Path}

/-! ### Lines on the standard output -/

/-- If each part is thinned out and the whole is as it was, each part is as it was. -/
theorem flatMap_eq_flatMap_iff {α β : Type} {thin full : α → List β}
    (h : ∀ a, (thin a).Sublist (full a)) (as : List α) :
    as.flatMap thin = as.flatMap full ↔ ∀ a ∈ as, thin a = full a := by
  induction as with
  | nil => simp
  | cons a as ih =>
    have hrest : (as.flatMap thin).length ≤ (as.flatMap full).length :=
      (List.Sublist.flatMap_right _ fun a _ => h a).length_le
    rw [List.flatMap_cons, List.flatMap_cons, List.forall_mem_cons, ← ih]
    constructor
    · intro heq
      have hlength := congrArg List.length heq
      rw [List.length_append, List.length_append] at hlength
      have hfirst := (h a).length_le
      exact List.append_inj heq (by omega)
    · rintro ⟨hfirst, hrest⟩
      rw [hfirst, hrest]

/-- **The lines on the standard output are the text of the label file** exactly if each line is
written as it is. -/
theorem join_map_echo_eq_iff (lines : List String) :
    String.join (lines.map kit.echo) = Listing.fileText lines ↔
      ∀ line ∈ lines, kit.plain line = line := by
  have hthin : ∀ line, (kit.echo line).toList.Sublist (line ++ "\n").toList := by
    intro line
    rw [Toolkit.echo, String.toList_append, String.toList_append]
    exact (kit.plain_sublist line).append_right _
  have hline : ∀ line, (kit.echo line).toList = (line ++ "\n").toList ↔ kit.plain line = line := by
    intro line
    rw [String.toList_inj, Toolkit.echo, String.append_left_inj]
  rw [← String.toList_inj, Listing.fileText, String.toList_join, String.toList_join,
    List.flatMap_map, List.flatMap_map, flatMap_eq_flatMap_iff hthin]
  simp only [hline]

/-- The lines of a listing stand on the standard output, each as the library writes it. -/
structure Toolkit.Prints (kit : Toolkit) (lines : List String) (stdout : String) : Prop where
  echoed : stdout = String.join (lines.map kit.echo)
  /-- They are the text of the label file exactly if each line is written as it is, -/
  eq_fileText_iff : stdout = Listing.fileText lines ↔ ∀ line ∈ lines, kit.plain line = line
  /-- so in any case if no line holds an escape character. -/
  eq_fileText : (∀ line ∈ lines, '\x1b' ∉ line.toList) → stdout = Listing.fileText lines

theorem prints_join_map_echo (kit : Toolkit) (lines : List String) :
    kit.Prints lines (String.join (lines.map kit.echo)) where
  echoed := rfl
  eq_fileText_iff := join_map_echo_eq_iff lines
  eq_fileText hlines :=
    (join_map_echo_eq_iff lines).2 fun line hline => kit.plain_eq_self (hlines line hline)

/-! ### Requests -/

/-- The label file that is written, if the labels do not go to the standard output. -/
def Destination.path? : Destination → Option Path
  | stdout => none
  | file path => some path

/-- What the lines of a listing leave on the standard output. -/
def Toolkit.shown (kit : Toolkit) (lines : List String) : Destination → String
  | .stdout => String.join (lines.map kit.echo)
  | .file _ => ""

/-- The settings of a request. -/
def Request.settings (request : Request) : Except Failure Settings :=
  Settings.ofTexts (some request.base) (some request.ram) request.ranges

/-- What a request comes to: where the labels go, the listing and the files after it, or else the
failure. -/
def Request.convert (request : Request) (files : Files) :
    Except Failure (Destination × Listing × Files) := do
  let (settings, destination) ← request.prepare
  let (listing, saved) ← files.convert request.input destination.path? settings
  return (destination, listing, saved)

/-- The conversion that a request describes, called on its own: settings from the texts, and then
the conversion to a file or to none. -/
def Request.conversion {m : Type → Type} [Monad m] (disk : Disk m) (request : Request)
    (output : Option Path) : m (Logged Listing) :=
  match request.settings with
  | .error failure => return Logged.ofExcept (.error failure)
  | .ok settings => convertFile disk request.input output settings

/-- The conversion of a request as a function of the files. -/
def Request.converted (request : Request) (files : Files) (output : Option Path) :
    Except Failure (Listing × Files) := do
  files.convert request.input output (← request.settings)

/-- What is noticed while the labels of a request are listed. -/
def Request.notices (request : Request) (files : Files) : List Notice :=
  match request.prepare with
  | .error _ => []
  | .ok (settings, _) => (files.listingOf request.input settings).notices

theorem noticeLines_append_wrote (notices : List Notice) (path : String) :
    noticeLines false (notices ++ [.wrote path]) = noticeLines false notices := by
  unfold noticeLines Notice.atLeast
  rw [List.filter_append]
  simp [Notice.level, Level.rank]

/-- The command keeps the store along with the listing; this changes neither what is noticed nor the
outcome. -/
theorem listed_eq_listingOf (files : Files) (input : Path) (settings : Settings) :
    (listed settings (storeOfFile input (files.read input))).notices =
        (files.listingOf input settings).notices ∧
      (listed settings (storeOfFile input (files.read input))).outcome.map Prod.snd =
        (files.listingOf input settings).outcome := by
  unfold listed Files.listingOf
  generalize storeOfFile input (files.read input) = step
  obtain ⟨told, failure | store⟩ := step
  · exact ⟨rfl, rfl⟩
  · simp only [Logged.notices_bind, Logged.outcome_bind, Except.bind]
    cases (store.listing settings).outcome with
    | error failure => exact ⟨by simp, rfl⟩
    | ok listing => exact ⟨by simp, rfl⟩

/-- What the command leaves behind when it got as far as its outcome: nothing on the standard output
unless it succeeded, and on the error output the notices and then the failure, if it failed. -/
theorem exists_finish_eq (kit : Toolkit) (request : Request) (settings : Settings)
    (destination : Destination) (outcome : Logged (Store × Listing)) : ∃ told,
    (request.verbose = false → told = noticeLines false outcome.notices) ∧
    kit.finish request settings destination outcome =
      match outcome.outcome with
      | .ok (_, listing) => ⟨0, kit.shown listing.lines destination, told⟩
      | .error failure => ⟨exitCode failure, "", told ++ kit.tell request.verbose "" failure⟩ := by
  have hquiet : ∀ lines, request.verbose = false → kit.echoIf request.verbose lines = "" := by
    intro lines h
    rw [h]
    rfl
  obtain ⟨notices, failure | ⟨store, listing⟩⟩ := outcome
  · refine ⟨kit.echoIf request.verbose (opening request settings) ++
      noticeLines request.verbose notices, fun h => ?_, rfl⟩
    rw [hquiet _ h, h, String.empty_append]
  · refine ⟨kit.echoIf request.verbose (opening request settings) ++
      noticeLines request.verbose notices ++
      kit.echoIf request.verbose (closing store listing destination), fun h => ?_, ?_⟩
    · rw [hquiet _ h, hquiet _ h, h, String.empty_append, String.append_empty]
    · cases destination <;> rfl

/-- **A request computes this function** of the files that are there.  A command that is not verbose
tells of the notices before it tells of a failure. -/
theorem run_convert (kit : Toolkit) (request : Request) (files : Files) : ∃ told,
    (request.verbose = false → told = noticeLines false (request.notices files)) ∧
    (kit.convert Files.disk request).run files =
      match request.convert files with
      | .ok (destination, listing, saved) => (⟨0, kit.shown listing.lines destination, told⟩, saved)
      | .error failure =>
        (⟨exitCode failure, "", told ++ kit.tell request.verbose "" failure⟩, files) := by
  unfold Toolkit.convert Request.convert Request.notices
  cases request.prepare with
  | error failure =>
    refine ⟨"", fun _ => rfl, ?_⟩
    show ((⟨exitCode failure, "", kit.tell request.verbose "" failure⟩ : Exit), files) =
      (⟨exitCode failure, "", "" ++ kit.tell request.verbose "" failure⟩, files)
    rw [String.empty_append]
  | ok prepared =>
    obtain ⟨settings, destination⟩ := prepared
    obtain ⟨hnotices, houtcome⟩ := listed_eq_listingOf files request.input settings
    dsimp only
    rw [ok_bind, StateT.run_bind, Files.run_readDebugFile, pure_bind]
    unfold Files.convert
    dsimp only
    rw [← hnotices, ← houtcome]
    generalize listed settings (storeOfFile request.input (files.read request.input)) = outcome
    -- a file is written only if there is a listing and it does not go to the standard output
    obtain ⟨notices, failure | ⟨store, listing⟩⟩ := outcome
    · obtain ⟨told, htold, hfinish⟩ :=
        exists_finish_eq kit request settings destination ⟨notices, .error failure⟩
      exact ⟨told, htold, congrArg (fun exit : Exit => (exit, files)) hfinish⟩
    · cases destination with
      | stdout =>
        obtain ⟨told, htold, hfinish⟩ :=
          exists_finish_eq kit request settings .stdout ⟨notices, .ok (store, listing)⟩
        exact ⟨told, htold, congrArg (fun exit : Exit => (exit, files)) hfinish⟩
      | file path =>
        dsimp only [Except.map]
        rw [ok_bind, StateT.run_bind, Files.run_writeLabelFile]
        unfold Destination.path?
        cases files.save listing.lines (some path) with
        | ok saved =>
          obtain ⟨told, htold, hfinish⟩ := exists_finish_eq kit request settings (.file path)
            ⟨notices ++ [.wrote path.text], .ok (store, listing)⟩
          refine ⟨told, fun h => ?_, congrArg (fun exit : Exit => (exit, saved)) hfinish⟩
          rw [htold h, noticeLines_append_wrote]
        | error failure =>
          obtain ⟨told, htold, hfinish⟩ := exists_finish_eq kit request settings (.file path)
            ⟨notices ++ [], .error failure⟩
          refine ⟨told, fun h => ?_, congrArg (fun exit : Exit => (exit, files)) hfinish⟩
          rw [htold h, List.append_nil]

/-! ### The command and the conversion -/

theorem prepare_eq (hout : request.outputPath = .ok out) :
    request.prepare = request.settings.map fun settings => (settings, Destination.ofPath out) := by
  unfold Request.prepare
  rw [hout]
  show (request.settings >>= fun settings => .ok (settings, Destination.ofPath out)) = _
  cases request.settings <;> rfl

theorem convert_eq (hout : request.outputPath = .ok out) :
    request.convert files =
      (request.converted files (Destination.ofPath out).path?).map fun converted =>
        (Destination.ofPath out, converted) := by
  unfold Request.convert Request.converted
  rw [prepare_eq hout]
  cases request.settings with
  | error failure => rfl
  | ok settings =>
    show (files.convert request.input (Destination.ofPath out).path? settings >>= fun converted =>
      .ok (Destination.ofPath out, converted)) = _
    rw [ok_bind]
    cases files.convert request.input (Destination.ofPath out).path? settings <;> rfl

/-- The conversion of a request, on files that are a value. -/
theorem run_conversion (hout : request.outputPath = .ok out) (files : Files)
    (output : Option Path) : ∃ notices,
    (request.conversion Files.disk output).run files =
      match request.converted files output with
      | .ok (listing, saved) => (⟨notices, .ok listing⟩, saved)
      | .error failure => (⟨request.notices files, .error failure⟩, files) := by
  unfold Request.conversion Request.converted Request.notices
  rw [prepare_eq hout]
  cases request.settings with
  | error failure => exact ⟨[], rfl⟩
  | ok settings => exact Files.run_convertFile files request.input output settings

/-- A request succeeds if its settings make sense, its label file has a path, and the conversion
succeeds. -/
theorem convert_eq_ok_iff {destination : Destination} {listing : Listing} :
    request.convert files = .ok (destination, listing, saved) ↔
      ∃ settings out, request.settings = .ok settings ∧ request.outputPath = .ok out ∧
        Destination.ofPath out = destination ∧
        files.convert request.input destination.path? settings = .ok (listing, saved) := by
  unfold Request.convert Request.prepare
  simp only [bind_eq_ok_iff, pure_eq_ok_iff, Prod.exists, Prod.mk.injEq]
  constructor
  · rintro ⟨_, _, ⟨settings, hsettings, out, hout, rfl, rfl⟩, _, _, hconvert, rfl, rfl, rfl⟩
    exact ⟨settings, out, hsettings, hout, rfl, hconvert⟩
  · rintro ⟨settings, out, hsettings, hout, rfl, hconvert⟩
    exact ⟨settings, _, ⟨settings, hsettings, out, hout, rfl, rfl⟩, listing, saved, hconvert, rfl,
      rfl, rfl⟩

/-- A conversion succeeds if the settings make sense, the listing is there and the label file, if
one is wanted, can be written. -/
theorem converted_eq_ok_iff {output : Option Path} {listing : Listing} :
    request.converted files output = .ok (listing, saved) ↔
      ∃ settings, request.settings = .ok settings ∧
        (files.listingOf request.input settings).outcome = .ok listing ∧
        files.save listing.lines output = .ok saved := by
  unfold Request.converted
  simp only [bind_eq_ok_iff, Files.convert_eq_ok_iff]

/-- A conversion to a file lists what a conversion to none does, and writes it. -/
theorem hasWritten_of_converted {listing listing' : Listing} {unchanged : Files} {path : Path}
    (h : request.converted files none = .ok (listing, unchanged))
    (h' : request.converted files (some path) = .ok (listing', saved)) :
    listing' = listing ∧ files.HasWritten saved path (Listing.fileText listing.lines).toUTF8 := by
  obtain ⟨settings, hsettings, hlisting, -⟩ := converted_eq_ok_iff.1 h
  obtain ⟨settings', hsettings', hlisting', hsave⟩ := converted_eq_ok_iff.1 h'
  obtain rfl : settings = settings' := Except.ok.inj (hsettings.symm.trans hsettings')
  obtain rfl : listing = listing' := Except.ok.inj (hlisting.symm.trans hlisting')
  exact ⟨rfl, Files.hasWritten_of_save hsave⟩

/-! ### From words to an instruction -/

theorem leavesFiles_firstFault (kit : Toolkit) (input : String) (output : Option String) :
    LeavesFiles (kit.firstFault Files.disk input output) := by
  refine .bind (kit.leavesFiles_check _ _) fun fault => ?_
  cases fault with
  | some fault => exact .pure _
  | none =>
    cases output with
    | none => exact .pure _
    | some output =>
      dsimp only
      split
      · exact .pure _
      · exact kit.leavesFiles_check _ _

theorem leavesFiles_instructFiles (kit : Toolkit) (environment : Environment)
    (arguments : Arguments) :
    LeavesFiles (kit.instructFiles Files.disk environment arguments) := by
  unfold Toolkit.instructFiles
  cases arguments.files with
  | nil => exact .pure _
  | cons input rest =>
    exact .bind (leavesFiles_firstFault kit input rest.head?) fun fault => .pure _

/-- **To find out what a command is asked to do changes no file.** -/
theorem leavesFiles_instruct (kit : Toolkit) (environment : Environment) (words : List String) :
    LeavesFiles (kit.instruct Files.disk environment words) := by
  unfold Toolkit.instruct
  cases kit.parse words with
  | error error => exact .pure _
  | ok arguments =>
    dsimp only
    cases arguments.inquiry with
    | some inquiry => exact .pure _
    | none => exact leavesFiles_instructFiles kit environment arguments

/-- A command runs as its instruction does. -/
theorem run_run (kit : Toolkit) (files : Files) (environment : Environment)
    (words : List String) :
    (kit.run Files.disk environment words).run files =
      (kit.carryOut Files.disk
        ((kit.instruct Files.disk environment words).run files).1).run files := by
  calc (kit.run Files.disk environment words).run files
      = (kit.carryOut Files.disk ((kit.instruct Files.disk environment words).run files).1).run
          ((kit.instruct Files.disk environment words).run files).2 := rfl
    _ = _ := by rw [leavesFiles_instruct kit environment words files]

end CommandLine
end DebugLabels
