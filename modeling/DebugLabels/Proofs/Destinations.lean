import DebugLabels.Proofs.Outputs
import DebugLabels.Proofs.Text

/-!
# Where the labels go

The labels go to the standard output if the path of the output file is written `-`. The path is in
normal form, so more texts than this one lead there: `Path.IsDash` says which, by the parts between
the slashes of a text, of which those that are empty or `.` do not count
(`Path.text_ofText_eq_dash_iff`). A dash in the working directory, named with a dot and a slash in
front, is one of them, although it is a file.

`run_destination` says of every command with an output file that is done where its labels are: on
the standard output if the argument is such a text, and else in the file that it names.
-/

namespace DebugLabels
namespace Path

/-- A part of a text that does not count in its path. -/
def IsIdle (part : List Char) : Prop := part = [] ∨ part = ['.']

/-- The text is a dash, but for parts that do not count. -/
def IsDash (text : String) : Prop :=
  ∃ before after : List (List Char),
    text.toList = List.intercalate ['/'] (before ++ ['-'] :: after) ∧
      before.head? ≠ some [] ∧ ∀ part ∈ before ++ after, IsIdle part

/-- An argument that is a dash, and another one. -/
example : IsDash "-" ∧ IsDash ".//-/." :=
  ⟨⟨[], [], rfl, by simp, by simp⟩, ⟨[['.'], []], [['.']], rfl, by simp, by simp [IsIdle]⟩⟩

theorem rootOf_eq_empty_iff {cs : List Char} : rootOf cs = "" ↔ cs.head? ≠ some '/' := by
  unfold rootOf
  cases cs with
  | nil => simp
  | cons c cs =>
    by_cases hslash : c = '/'
    · subst hslash
      rw [List.takeWhile_cons_of_pos (by simp), List.length_cons]
      simp only [List.head?_cons, ne_eq, not_true_eq_false, iff_false]
      split <;> simp_all
    · rw [List.takeWhile_cons_of_neg (by simpa using hslash)]
      simpa using hslash

/-- The root of a text is a slash or two, if there is one. -/
theorem rootOf_mem (cs : List Char) : rootOf cs ∈ ["", "/", "//"] := by
  unfold rootOf
  split <;> simp

/-- No part of a path holds a slash. -/
theorem slash_not_mem_of_mem_partsOf {cs : List Char} {part : String} (h : part ∈ partsOf cs) :
    '/' ∉ part.toList := by
  obtain ⟨hmem, -⟩ := List.mem_filter.1 h
  obtain ⟨piece, hpiece, rfl⟩ := List.mem_map.1 hmem
  rw [String.toList_ofList]
  exact Text.not_mem_of_mem_splitOn hpiece

/-- Parts that are joined to a text without a slash are a single one. -/
theorem eq_singleton_of_intercalate {parts : List String} {text : String} (hne : parts ≠ [])
    (hslash : ∀ part ∈ parts, '/' ∉ part.toList) (htext : '/' ∉ text.toList)
    (h : "/".intercalate parts = text) : parts = [text] := by
  have hjoined : List.intercalate ['/'] (parts.map String.toList) = text.toList := by
    rw [← h, String.toList_intercalate]
    rfl
  have hsplit : Text.splitOn '/' (List.intercalate ['/'] (parts.map String.toList)) =
      parts.map String.toList :=
    Text.splitOn_intercalate (by simpa using hne) (by simpa using hslash)
  have hparts : parts.map String.toList = [text].map String.toList := by
    rw [← hsplit, hjoined, Text.splitOn_of_not_mem htext, List.map_singleton]
  exact List.map_injective_iff.2 (fun _ _ => String.toList_injective) hparts

/-- A path is written as a dash exactly if this is its only part, and it has no root. -/
theorem text_eq_dash_iff (text : String) :
    (ofText text).text = "-" ↔ rootOf text.toList = "" ∧ partsOf text.toList = ["-"] := by
  unfold Path.text ofText
  dsimp only
  constructor
  · intro h
    split at h
    · simp at h
    · rename_i hparts
      have hroot : rootOf text.toList = "" := by
        -- a root would be a slash at the start
        have hstart := congrArg (fun text => text.toList.head?) h
        have hmem := rootOf_mem text.toList
        simp only [List.mem_cons, List.not_mem_nil, or_false] at hmem
        rcases hmem with hroot | hroot | hroot
        · exact hroot
        · rw [hroot] at hstart
          simp at hstart
        · rw [hroot] at hstart
          simp at hstart
      rw [hroot, String.empty_append] at h
      have hne : partsOf text.toList ≠ [] := fun hnil => hparts ⟨hroot, hnil⟩
      exact ⟨hroot, eq_singleton_of_intercalate hne
        (fun part => slash_not_mem_of_mem_partsOf) (by decide) h⟩
  · rintro ⟨hroot, hparts⟩
    rw [hroot, hparts]
    rfl

theorem partsOf_eq (cs : List Char) :
    partsOf cs =
      ((Text.splitOn '/' cs).filter fun piece => piece ≠ [] ∧ piece ≠ ['.']).map String.ofList := by
  have hcounts : ∀ piece : List Char,
      (String.ofList piece ≠ "" ∧ String.ofList piece ≠ ".") ↔ (piece ≠ [] ∧ piece ≠ ['.']) := by
    intro piece
    have hofList : ∀ cs, String.ofList piece = String.ofList cs ↔ piece = cs :=
      fun _ => String.ofList_inj
    exact and_congr (not_congr (hofList [])) (not_congr (hofList ['.']))
  unfold partsOf
  rw [List.filter_map]
  simp only [Function.comp_def, hcounts]

/-- The parts that count are a single dash exactly if all others are idle. -/
theorem partsOf_eq_dash_iff {cs : List Char} :
    partsOf cs = ["-"] ↔ ∃ before after : List (List Char),
      cs = List.intercalate ['/'] (before ++ ['-'] :: after) ∧
        ∀ part ∈ before ++ after, IsIdle part := by
  have hidle : ∀ part : List Char, (¬(part ≠ [] ∧ part ≠ ['.'])) ↔ IsIdle part := by
    intro part
    rw [IsIdle, not_and_or, not_not, not_not]
  have hmap : ∀ pieces : List (List Char),
      pieces.map String.ofList = [['-']].map String.ofList ↔ pieces = [['-']] := fun _ =>
    (List.map_injective_iff.2 fun _ _ => String.ofList_injective).eq_iff
  rw [partsOf_eq]
  show List.map _ _ = [['-']].map String.ofList ↔ _
  rw [hmap, List.filter_eq_cons_iff]
  simp only [decide_eq_true_eq, hidle, List.filter_eq_nil_iff]
  constructor
  · rintro ⟨before, after, hpieces, hbefore, -, hafter⟩
    refine ⟨before, after, ?_, ?_⟩
    · rw [← hpieces, Text.splitOn_join]
    · exact List.forall_mem_append.2 ⟨hbefore, hafter⟩
  · rintro ⟨before, after, rfl, hparts⟩
    obtain ⟨hbefore, hafter⟩ := List.forall_mem_append.1 hparts
    have hidleSlash : ∀ part, IsIdle part → '/' ∉ part := by
      rintro part (rfl | rfl) <;> simp
    have hslash : ∀ part ∈ before ++ ['-'] :: after, '/' ∉ part := by
      rw [List.forall_mem_append, List.forall_mem_cons]
      exact ⟨fun part h => hidleSlash part (hbefore part h), by simp,
        fun part h => hidleSlash part (hafter part h)⟩
    have hne : before ++ ['-'] :: after ≠ [] := by simp
    exact ⟨before, after, Text.splitOn_intercalate hne hslash, hbefore, by decide, hafter⟩

/-- **A path is written as a dash exactly if its text is a dash**, but for parts that do not
count. -/
theorem text_ofText_eq_dash_iff (text : String) : (ofText text).text = "-" ↔ IsDash text := by
  have hhead : ∀ before after : List (List Char), (∀ part ∈ before ++ after, IsIdle part) →
      ((List.intercalate ['/'] (before ++ ['-'] :: after)).head? ≠ some '/' ↔
        before.head? ≠ some []) := by
    intro before after hparts
    cases before with
    | nil => cases after <;> simp [List.intercalate_cons_cons]
    | cons part before =>
      obtain rfl | rfl := hparts part List.mem_cons_self
      · cases before <;> simp [List.intercalate_cons_cons]
      · cases before <;> simp [List.intercalate_cons_cons]
  rw [text_eq_dash_iff, rootOf_eq_empty_iff, partsOf_eq_dash_iff]
  constructor
  · rintro ⟨hroot, before, after, htext, hparts⟩
    rw [htext, hhead before after hparts] at hroot
    exact ⟨before, after, htext, hroot, hparts⟩
  · rintro ⟨before, after, htext, hroot, hparts⟩
    rw [htext, hhead before after hparts]
    exact ⟨hroot, before, after, rfl, hparts⟩

end Path

namespace CommandLine

variable {kit : Toolkit} {files : Files} {environment : Environment} {words : List String}
  {arguments : Arguments} {input output : String}

/-- Two files are refused, or they make a request with an output. -/
theorem instructFiles_refuses_or (kit : Toolkit) (environment : Environment)
    (hfiles : arguments.files = [input, output]) (files : Files) :
    let instruction := ((kit.instructFiles Files.disk environment arguments).run files).1
    (∃ error, instruction = .refuse error) ∨
      instruction = .convert (kit.request environment arguments input (some output)) := by
  unfold Toolkit.instructFiles
  rw [hfiles]
  show (∃ error, kit.instructionOf environment arguments input [output]
      ((kit.firstFault Files.disk input (some output)).run files).1 = .refuse error) ∨
    kit.instructionOf environment arguments input [output]
      ((kit.firstFault Files.disk input (some output)).run files).1 = _
  cases ((kit.firstFault Files.disk input (some output)).run files).1 with
  | some fault => exact .inl ⟨fault, rfl⟩
  | none => exact .inr rfl

/-- A command with two files that is done carried out its request. -/
theorem convert_of_code_eq_zero (hwords : kit.parse words = .ok arguments)
    (hinquiry : arguments.inquiry = none) (hfiles : arguments.files = [input, output])
    (hcode : ((kit.run Files.disk environment words).run files).1.code = 0) :
    ((kit.instruct Files.disk environment words).run files).1 =
      .convert (kit.request environment arguments input (some output)) := by
  have hinstruct : kit.instruct Files.disk environment words =
      kit.instructFiles Files.disk environment arguments := by
    unfold Toolkit.instruct
    rw [hwords]
    dsimp only
    rw [hinquiry]
  rw [run_run, hinstruct] at hcode
  rw [hinstruct]
  obtain ⟨error, hrefuse⟩ | hconvert := instructFiles_refuses_or kit environment hfiles files
  · rw [hrefuse] at hcode
    exact absurd hcode (kit.code_refuse error)
  · exact hconvert

/-- **Where the labels go.** A command that is given an output file and is done leaves the lines of
its listing in one place. If the argument is a dash, but for parts that do not count, they are on
the standard output, as the library writes them, and no file changes. Otherwise they are in the file
that the argument names, and the standard output is empty. -/
theorem run_destination (kit : Toolkit) (files : Files) (environment : Environment)
    (words : List String) (arguments : Arguments) (input output : String)
    (hwords : kit.parse words = .ok arguments) (hinquiry : arguments.inquiry = none)
    (hfiles : arguments.files = [input, output])
    (hcode : ((kit.run Files.disk environment words).run files).1.code = 0) :
    let after := (kit.run Files.disk environment words).run files
    ∃ settings listing,
      Settings.ofTexts (some (kit.setting arguments.base environment.base "0x10"))
        (some (kit.setting arguments.ram environment.ram "W")) arguments.ranges = .ok settings ∧
      (files.listingOf (Path.ofText input) settings).outcome = .ok listing ∧
      (¬ Path.IsDash output → after.1.stdout = "" ∧
        files.HasWritten after.2 (Path.ofText output) (Listing.fileText listing.lines).toUTF8) ∧
      (Path.IsDash output → after.2 = files ∧ kit.Prints listing.lines after.1.stdout) := by
  have hconvert := convert_of_code_eq_zero hwords hinquiry hfiles hcode
  generalize hrequest : kit.request environment arguments input (some output) = request
    at hconvert
  obtain ⟨told, -, hrun⟩ := run_convert kit request files
  dsimp only
  rw [run_run, hconvert, Toolkit.carryOut, hrun] at hcode ⊢
  cases hconverted : request.convert files with
  | error failure =>
    rw [hconverted] at hcode
    exact absurd hcode (exitCode_ne_zero failure)
  | ok converted =>
    obtain ⟨destination, listing, saved⟩ := converted
    obtain ⟨settings, out, hsettings, hout, hlisting, hleft⟩ := written_or_printed kit hconverted
    subst hrequest
    obtain rfl : Path.ofText output = out := Except.ok.inj hout
    rw [ne_eq, Path.text_ofText_eq_dash_iff] at hleft
    refine ⟨settings, listing, hsettings, hlisting, ?_, ?_⟩
    · intro hdash
      rcases hleft with ⟨-, hwritten⟩ | ⟨hdash', -⟩
      · exact hwritten
      · exact absurd hdash' hdash
    · intro hdash
      rcases hleft with ⟨hdash', -⟩ | ⟨-, hsame, hprinted⟩
      · exact absurd hdash hdash'
      · exact ⟨hsame, hprinted⟩

/-- A debug file with one label. -/
def oneLabel : Files := ⟨[(["g.dbg"], .file "sym\tid=0,name=n,val=10,type=lab\n".toUTF8)]⟩

/-- An argument that names a file has the labels written there, and a dash has them printed. -/
theorem run_destination_oneLabel :
    (∃ settings listing,
      (oneLabel.listingOf (Path.ofText "g.dbg") settings).outcome = .ok listing ∧
        let after := (run Files.disk {} ["g.dbg", "./g.mlb"]).run oneLabel
        after.1.stdout = "" ∧ oneLabel.HasWritten after.2 (Path.ofText "./g.mlb")
          (Listing.fileText listing.lines).toUTF8) ∧
      let after := (run Files.disk {} ["g.dbg", "-"]).run oneLabel
      after.1.stdout = "R:10:n\n" ∧ after.2 = oneLabel := by
  have hdone : ((run Files.disk {} ["g.dbg", "./g.mlb"]).run oneLabel).1.code = 0 := by
    decide +kernel
  have hprinted : ((run Files.disk {} ["g.dbg", "-"]).run oneLabel).1.code = 0 ∧
      ((run Files.disk {} ["g.dbg", "-"]).run oneLabel).1.stdout = "R:10:n\n" := by
    decide +kernel
  have hfile : ¬ Path.IsDash "./g.mlb" := by
    rw [← Path.text_ofText_eq_dash_iff]
    decide
  have hdash : Path.IsDash "-" := by
    rw [← Path.text_ofText_eq_dash_iff]
    decide
  obtain ⟨settings, listing, -, hlisting, hwritten, -⟩ :=
    run_destination .standard oneLabel {} ["g.dbg", "./g.mlb"] { files := ["g.dbg", "./g.mlb"] }
      "g.dbg" "./g.mlb" rfl rfl rfl hdone
  obtain ⟨_, _, -, -, -, hsame⟩ :=
    run_destination .standard oneLabel {} ["g.dbg", "-"] { files := ["g.dbg", "-"] }
      "g.dbg" "-" rfl rfl rfl hprinted.1
  exact ⟨⟨settings, listing, hlisting, hwritten hfile⟩, hprinted.2, (hsame hdash).1⟩

/-- With a dot and a slash in front of the dash the argument names a file, but the labels are
printed and the file is not there. -/
theorem stdout_dotSlashDash :
    let after := (run Files.disk {} ["g.dbg", "./-"]).run oneLabel
    "./-" ≠ "-" ∧ after.1.code = 0 ∧ after.1.stdout = "R:10:n\n" ∧
      (after.2.content? (Path.ofText "./-")).isNone := by
  decide +kernel

end CommandLine
end DebugLabels
