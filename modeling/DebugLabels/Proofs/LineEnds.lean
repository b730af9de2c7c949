import DebugLabels.Proofs.FileConversion
import DebugLabels.Proofs.RecordOrder

/-!
# Line ends on disk and in memory

A debug file is read with every line end made a line feed; a text in memory is read as it is, and
carriage returns and line feeds come off the end of each line.  Where every carriage return stands
before a line feed the two come to the same lines (`bareLines_unifyLineEnds`), and a record is a
matter of its line without what ends it (`ofText_congr`), so both hand the same records at the same
places to the store.

The main statement is `run_readDebugFile_of_read`: a file that holds such a text is read as the text
is, under the last part of its path.
-/

namespace DebugLabels
namespace Text

/-- Every carriage return has a line feed right after it. -/
def HasPairedReturns (cs : List Char) : Prop :=
  ∀ before after, cs = before ++ '\r' :: after → after.head? = some '\n'

theorem hasPairedReturns_nil : HasPairedReturns [] := by
  intro before after heq
  simp at heq

theorem hasPairedReturns_cons_iff {c : Char} {cs : List Char} :
    HasPairedReturns (c :: cs) ↔ (c = '\r' → cs.head? = some '\n') ∧ HasPairedReturns cs := by
  constructor
  · intro h
    refine ⟨fun hc => h [] cs (by rw [hc, List.nil_append]), fun before after heq => ?_⟩
    exact h (c :: before) after (by rw [heq, List.cons_append])
  · rintro ⟨hfirst, hrest⟩ before after heq
    cases before with
    | nil =>
      obtain ⟨hc, rfl⟩ := List.cons.inj heq
      exact hfirst hc
    | cons d before =>
      obtain ⟨-, htail⟩ := List.cons.inj heq
      exact hrest before after htail

instance decidableHasPairedReturns : (cs : List Char) → Decidable (HasPairedReturns cs)
  | [] => isTrue hasPairedReturns_nil
  | _ :: cs =>
    have := decidableHasPairedReturns cs
    decidable_of_iff' _ hasPairedReturns_cons_iff

/-- The text with line feeds as its line ends, after a character. -/
def unifyAfter : (before : Char) → List Char → List Char
  | _, [] => []
  | before, c :: cs =>
    (if c = '\r' then ['\n'] else if c = '\n' ∧ before = '\r' then [] else [c]) ++ unifyAfter c cs

theorem unifyLineEnds_eq_unifyAfter (cs : List Char) : unifyLineEnds cs = unifyAfter ' ' cs := by
  rw [unifyLineEnds]
  generalize ' ' = before
  induction cs generalizing before with
  | nil => rfl
  | cons c cs ih => rw [List.zip_cons_cons, List.flatMap_cons, ih, unifyAfter]

/-- The lines are the same, whatever stood before, unless it was a carriage return. -/
theorem bareLines_unifyAfter {before : Char} {cs : List Char} (hbefore : before ≠ '\r')
    (h : HasPairedReturns cs) : bareLines (unifyAfter before cs) = bareLines cs := by
  match cs with
  | [] => rfl
  | c :: cs =>
    obtain ⟨hfirst, hrest⟩ := hasPairedReturns_cons_iff.1 h
    by_cases hreturn : c = '\r'
    -- the pair is one line end in both, and what follows it comes after a line feed
    · subst hreturn
      obtain ⟨rest, rfl⟩ := List.head?_eq_some_iff.1 (hfirst rfl)
      have hpair : unifyAfter before ('\r' :: '\n' :: rest) = '\n' :: unifyAfter '\n' rest := by
        simp [unifyAfter]
      rw [hpair, bareLines_lineFeed_cons, bareLines_return_lineFeed_cons,
        bareLines_unifyAfter (by decide) (hasPairedReturns_cons_iff.1 hrest).2]
    · have hkept : unifyAfter before (c :: cs) = c :: unifyAfter c cs := by
        simp [unifyAfter, hreturn, hbefore]
      have ih := bareLines_unifyAfter hreturn hrest
      rw [hkept]
      by_cases hfeed : c = '\n'
      · rw [hfeed, bareLines_lineFeed_cons, bareLines_lineFeed_cons, ← hfeed, ih]
      · have hline : isLineEnd c = false := by simp [isLineEnd, hreturn, hfeed]
        rw [bareLines_cons hline, bareLines_cons hline, ih]
termination_by cs.length

/-- **Line feeds for line ends leave the lines as they are**, if every carriage return stands before
a line feed. -/
theorem bareLines_unifyLineEnds {cs : List Char} (h : HasPairedReturns cs) :
    bareLines (unifyLineEnds cs) = bareLines cs := by
  rw [unifyLineEnds_eq_unifyAfter]
  exact bareLines_unifyAfter (by decide) h

end Text

namespace RecordLine

/-- The records and their places are read off the lines without what ends them. -/
theorem ofText_eq_located_bareLines (file : String) (text : List Char) :
    ofText file text = located file ((Text.bareLines text).zipIdx 1) := by
  rw [ofText, ofLines, located, located, Text.bareLines, List.zipIdx_map, List.filterMap_map]
  refine List.filterMap_congr fun line _ => ?_
  simp only [Function.comp_apply, Prod.map_fst, Prod.map_snd, ofLine?_trimEnd, id_eq]

theorem ofText_congr {text text' : List Char} (h : Text.bareLines text = Text.bareLines text')
    (file : String) : ofText file text = ofText file text' := by
  rw [ofText_eq_located_bareLines, h, ofText_eq_located_bareLines]

end RecordLine

namespace Files

variable {files : Files} {path : Path} {text : String}

/-- **Reading from disk and reading from memory agree.**  A file that holds a text in which every
carriage return stands before a line feed is read as the text is under the name of the file: with
the same store, or the same failure, and the same notices after the one that the file is read.  No
file changes. -/
theorem run_readDebugFile_of_read (h : files.read path = .ok text.toUTF8)
    (hreturns : Text.HasPairedReturns text.toList) :
    let run := (readDebugFile disk path).run files
    run.1.outcome = (Store.ofText text path.name).outcome ∧
      run.1.notices = .reading path.text :: (Store.ofText text path.name).notices ∧
      run.2 = files := by
  have hlines : RecordLine.ofText path.name (Text.unifyLineEnds text.toList) =
      RecordLine.ofText path.name text.toList :=
    RecordLine.ofText_congr (Text.bareLines_unifyLineEnds hreturns) path.name
  have hread : storeOfFile path (files.read path) =
      (Logged.note (.reading path.text) >>= fun _ => Store.ofText text path.name) := by
    rw [h, storeOfFile, Store.ofText, Reading.readText, Reading.readText, debugFileText,
      Text.ofUtf8_toUTF8, hlines]
  rw [run_readDebugFile, hread]
  exact ⟨rfl, rfl, rfl⟩

set_option maxRecDepth 2000 in
/-- A file with line ends of both kinds, and a record of no known kind in its third line. -/
theorem run_readDebugFile_of_read_third :
    ∃ files : Files, files.read ⟨"", ["a.dbg"]⟩ = .ok "seg\tid=0\r\n\nx\r\n".toUTF8 ∧
      Text.HasPairedReturns "seg\tid=0\r\n\nx\r\n".toList ∧
      ((readDebugFile disk ⟨"", ["a.dbg"]⟩).run files).1.outcome =
        .error (.error (.unknownKind "x" (some ⟨"a.dbg", 3⟩))) := by
  have hread : (Files.empty.put ["a.dbg"] (.file "seg\tid=0\r\n\nx\r\n".toUTF8)).read
      ⟨"", ["a.dbg"]⟩ = .ok "seg\tid=0\r\n\nx\r\n".toUTF8 := rfl
  have hreturns : Text.HasPairedReturns "seg\tid=0\r\n\nx\r\n".toList := by decide
  have hmemory : (Store.ofText "seg\tid=0\r\n\nx\r\n" "a.dbg").outcome =
      .error (.error (.unknownKind "x" (some ⟨"a.dbg", 3⟩))) := by
    rw [← Failure.ofError_of_isWritable (by decide +kernel)]
    rfl
  exact ⟨_, hread, hreturns, (run_readDebugFile_of_read hread hreturns).1.trans hmemory⟩

end Files
end DebugLabels
