import Mathlib.Data.Option.Basic
import DebugLabels.Proofs.BadLines
import DebugLabels.Proofs.LineNumbers

/-!
# Reading a text in parts

A text may be read in two parts, the second into the store that the first leaves
(`Reading.readTexts`).  If the first part ends with a line feed, no line is cut in two, and only the
numbers of lines tell the parts from the whole: in the second part they start from 1 again.

Two readings of the same lines, one so many lines further down than the other, stay alike line by
line (`Reading.IsMovedDown.readLine`) and so over all lines (`Reading.IsMovedDown.readLines`): their
stores are the same but for line numbers, and they stop at the same fault.  Whatever the store holds
at the outset, it is carried along, so ids that come again and info records that empty the tables
need no care of their own.

The main statement is `Reading.readText_append`.
-/

namespace DebugLabels

/-- **A text that ends with a line feed has as many lines as line feeds.** -/
theorem Text.length_lines {cs : List Char} (h : ∀ c ∈ cs.getLast?, c = '\n') :
    (lines cs).length = cs.count '\n' := by
  induction cs with
  | nil => rfl
  | cons c cs ih =>
    rw [lines_cons]
    by_cases hfeed : c = '\n'
    · subst hfeed
      have hrest : ∀ d ∈ cs.getLast?, d = '\n' := by
        cases cs with
        | nil => simp
        | cons d cs => simpa [List.getLast?_cons_cons] using h
      rw [consLine, if_pos rfl, List.length_cons, List.count_cons_self, ih hrest]
    · cases cs with
      | nil => exact absurd (h c (by simp)) hfeed
      | cons d cs =>
        obtain ⟨line, rest, hlines⟩ :=
          List.exists_cons_of_ne_nil (lines_ne_nil (List.cons_ne_nil d cs))
        rw [List.count_cons_of_ne hfeed,
          ← ih (by simpa [List.getLast?_cons_cons] using h), consLine, if_neg hfeed, hlines]
        rfl

/-- Two failures are those of one error about a record of a file, the second so many lines further
down, where `failure` says how an error fails. -/
inductive Failure.IsMovedDown (failure : Error → Failure) (file : String) (lines : Nat) :
    Failure → Failure → Prop
  | record (fault : RecordFault) (line : Int) (hint : Option String) :
      IsMovedDown failure file lines (failure (.record fault (some ⟨file, line⟩) hint))
        (failure (.record fault (some ⟨file, line + lines⟩) hint))

/-- If both can be worded, both are errors. -/
theorem Failure.IsMovedDown.error {file : String} {lines : Nat} {near far : Failure}
    (h : IsMovedDown .ofError file lines near far) (hnear : near ≠ .digitLimit)
    (hfar : far ≠ .digitLimit) : IsMovedDown .error file lines near far := by
  obtain ⟨fault, line, hint⟩ := h
  rw [ne_eq, ofError_eq_digitLimit_iff, not_not] at hnear hfar
  rw [ofError_of_isWritable hnear, ofError_of_isWritable hfar]
  exact .record fault line hint

/-- The words of an error about a record that come after its place. -/
def Error.afterPlace (fault : RecordFault) (hint : Option String) : String :=
  ": error: " ++ (fault.message ++
    match nonEmpty? hint with
    | some hint => "\nhint: " ++ hint
    | none => "")

theorem Error.message_record (fault : RecordFault) (location : Location) (hint : Option String) :
    (record fault (some location) hint).message = location.shown ++ afterPlace fault hint := by
  rw [afterPlace, ← String.append_assoc, ← String.append_assoc]
  rfl

/-- **The two errors are of one category**, and their words differ in the line number alone. -/
theorem Failure.IsMovedDown.exists_message {file : String} {lines : Nat} {near far : Failure}
    (h : IsMovedDown .error file lines near far) :
    ∃ (error error' : Error) (line : Int) (words : String),
      near = .error error ∧ far = .error error' ∧ error'.category = error.category ∧
        error.message = file ++ ":" ++ Numeral.decimal line ++ words ∧
        error'.message = file ++ ":" ++ Numeral.decimal (line + lines) ++ words := by
  obtain ⟨fault, line, hint⟩ := h
  have hcategory : ∀ location location', (Error.record fault location hint).category =
      (Error.record fault location' hint).category := fun _ _ => by cases fault <;> rfl
  refine ⟨.record fault (some ⟨file, line⟩) hint, .record fault (some ⟨file, line + lines⟩) hint,
    line, Error.afterPlace fault hint, rfl, rfl, hcategory _ _, ?_, ?_⟩
  · rw [Error.message_record, Location.shown]
  · rw [Error.message_record, Location.shown]

/-- An error about one line is that about another, so many lines further down. -/
theorem RecordLine.HasFault.isMovedDown {record : RecordLine} {error : Option Location → Error}
    (h : record.HasFault error) (file : String) (number lines : Nat) :
    Failure.IsMovedDown .ofError file lines (.ofError (error (some ⟨file, number⟩)))
      (.ofError (error (some ⟨file, (number + lines : Nat)⟩))) := by
  rw [Int.natCast_add]
  cases h with
  | unknownKind => exact .record _ _ _
  | malformed => exact .record _ _ _

/-- Two stores hold the same, but for the numbers of the lines that their entries stood on. -/
structure Store.SameButLines (store other : Store) : Prop where
  version : other.version = store.version
  info : other.info = store.info
  discarded : other.discarded = store.discarded
  find? : ∀ table id,
    (other.find? table id).map Entry.unnumbered = (store.find? table id).map Entry.unnumbered

theorem Store.SameButLines.refl (store : Store) : store.SameButLines store :=
  ⟨rfl, rfl, rfl, fun _ _ => rfl⟩

/-- A usable record does the same to two such stores, whatever its line. -/
theorem Store.SameButLines.after {store other : Store} (h : store.SameButLines other)
    {record : RecordLine} (husable : record.isUsable = true) (file : String) (line line' : Int) :
    (store.after ⟨record, some ⟨file, line⟩⟩).SameButLines
      (other.after ⟨record, some ⟨file, line'⟩⟩) := by
  have hcall : ∀ location, (Call.mk record location).isUsable = true := fun _ => husable
  refine ⟨?_, ?_, ?_, fun table id => ?_⟩
  · rw [version_after _ (hcall _), version_after _ (hcall _), h.version]
  · rw [info_after _ (hcall _), info_after _ (hcall _), h.info]
  · rw [discarded_after _ (hcall _), discarded_after _ (hcall _), h.discarded]
  · rw [find?_after _ (hcall _), find?_after _ (hcall _)]
    split
    · rfl
    · split
      · rfl
      · exact h.find? table id

open RecordLine (IsBadLine LineHasFault)

namespace Reading

variable {file : String} {lines : Nat} {near far : Reading}

/-- Two readings of a file have come equally far, the second so many lines further down. -/
structure IsMovedDown (file : String) (lines : Nat) (near far : Reading) : Prop where
  store : near.store.SameButLines far.store
  failure : Option.Rel (Failure.IsMovedDown .ofError file lines) near.failure far.failure

/-- A reading that has stopped takes in no line. -/
theorem readLine_of_failure {reading : Reading} {failure : Failure}
    (h : reading.failure = some failure) (file : String) (line : List Char) (number : Nat) :
    reading.readLine file line number = reading := by
  unfold readLine
  split
  · rfl
  · simp [next, h]

/-- A line that is not bad does the same to two stores. -/
theorem sameButLines_readLine {line : List Char}
    (h : near.store.SameButLines far.store) (hnear : near.failure = none)
    (hfar : far.failure = none) (hbad : ¬ IsBadLine line) (file : String) (number number' : Nat) :
    (near.readLine file line number).store.SameButLines
      (far.readLine file line number').store := by
  unfold Reading.readLine
  cases hrecord : RecordLine.ofLine? line with
  | none => exact h
  | some record =>
    have husable : record.isUsable = true := Store.isUsable_of_not_isBadLine hrecord hbad
    dsimp only
    rw [(next_of_isUsable hnear husable).2, (next_of_isUsable hfar husable).2]
    exact h.after husable file number number'

/-- **One more line** keeps two readings alike. -/
theorem IsMovedDown.readLine (h : IsMovedDown file lines near far) (line : List Char)
    (number : Nat) :
    IsMovedDown file lines (near.readLine file line number)
      (far.readLine file line (number + lines)) := by
  obtain ⟨hstore, hfailure⟩ := h
  rcases hnear : near.failure with _ | failure <;> rcases hfar : far.failure with _ | failure' <;>
    rw [hnear, hfar] at hfailure
  -- One of them has stopped and the other has not.
  case none.some | some.none => cases hfailure
  case some.some =>
    rw [readLine_of_failure hnear, readLine_of_failure hfar]
    exact ⟨hstore, by rwa [hnear, hfar]⟩
  case none.none =>
    by_cases hbad : IsBadLine line
    · obtain ⟨error, hfault⟩ := hbad
      obtain ⟨hnear', hstore'⟩ := readLine_of_hasFault hnear hfault file number
      obtain ⟨hfar', hstore''⟩ := readLine_of_hasFault hfar hfault file (number + lines)
      refine ⟨by rwa [hstore', hstore''], ?_⟩
      rw [hnear', hfar']
      exact .some (hfault.2.isMovedDown file number lines)
    · refine ⟨?_, ?_⟩
      · exact sameButLines_readLine hstore hnear hfar hbad file number (number + lines)
      · rw [failure_readLine_of_not_isBadLine hnear hbad,
          failure_readLine_of_not_isBadLine hfar hbad]
        exact .none

/-- **So does any number of lines.** -/
theorem IsMovedDown.readLines (h : IsMovedDown file lines near far) (rest : List (List Char))
    (number : Nat) :
    IsMovedDown file lines (Reading.readLines near file rest number)
      (Reading.readLines far file rest (number + lines)) := by
  induction rest generalizing near far number with
  | nil => exact h
  | cons line rest ih =>
    rw [readLines_cons, readLines_cons, Nat.add_right_comm]
    exact ih (h.readLine line number) (number + 1)

/-- Read a text of a file in two parts.  If the first fails, the second is not read. -/
def readTexts (store : Store) (file : String) (first second : List Char) : Reading :=
  let reading := readText store file first
  match reading.failure with
  | some _ => reading
  | none =>
    let rest := readText reading.store file second
    { rest with notices := reading.notices ++ rest.notices }

section Parts

variable {store : Store} {first : List Char}

theorem readTexts_of_failure {failure : Failure}
    (h : (readText store file first).failure = some failure) (second : List Char) :
    readTexts store file first second = readText store file first := by
  simp [readTexts, h]

/-- The second part goes into the store that the first leaves. -/
theorem readTexts_of_going (h : (readText store file first).failure = none) (second : List Char) :
    (readTexts store file first second).store =
        (readText (readText store file first).store file second).store ∧
      (readTexts store file first second).failure =
        (readText (readText store file first).store file second).failure := by
  simp [readTexts, h]

/-- The whole is the lines of the second part, after those of the first. -/
theorem readLines_lines_append (hfirst : ∀ c ∈ first.getLast?, c = '\n') (second : List Char) :
    readLines (start store) file (Text.lines (first ++ second)) 1 =
      readLines (readLines (start store) file (Text.lines first) 1) file (Text.lines second)
        (1 + first.count '\n') := by
  rw [Text.lines_append hfirst, readLines_append, Text.length_lines hfirst]

/-- **If the first part fails, the whole fails there.** -/
theorem readText_append_of_failure (hfirst : ∀ c ∈ first.getLast?, c = '\n') {failure : Failure}
    (h : (readText store file first).failure = some failure) (second : List Char) :
    (readText store file (first ++ second)).store = (readText store file first).store ∧
      (readText store file (first ++ second)).failure = some failure := by
  rw [failure_readText] at h
  rw [store_readText, store_readText, failure_readText, readLines_lines_append hfirst, readLines,
    readRecords_of_failure h]
  exact ⟨rfl, h⟩

/-- **If it does not fail**, the whole fares as the second part does in the store that the first
leaves. -/
theorem isMovedDown_readText_append (hfirst : ∀ c ∈ first.getLast?, c = '\n')
    (h : (readText store file first).failure = none) (second : List Char) :
    IsMovedDown file (first.count '\n')
      (readText (readText store file first).store file second)
      (readText store file (first ++ second)) := by
  rw [failure_readText] at h
  have hstart : IsMovedDown file (first.count '\n') (start (readText store file first).store)
      (readLines (start store) file (Text.lines first) 1) :=
    ⟨by rw [store_readText]; exact .refl _, by rw [h]; exact .none⟩
  have hlines := hstart.readLines (Text.lines second) 1
  rw [← readLines_lines_append hfirst] at hlines
  refine ⟨?_, ?_⟩
  · rw [store_readText _ _ second, store_readText _ _ (first ++ second)]
    exact hlines.store
  · rw [failure_readText _ _ second, failure_readText _ _ (first ++ second)]
    exact hlines.failure

end Parts

/-- **A text that fails can say so**, unless it has more lines than a number can say. -/
theorem failure_readText_ne_digitLimit {store : Store} {text : List Char}
    (hlines : Numeral.IsWritable (Text.lines text).length) {failure : Failure}
    (h : (readText store file text).failure = some failure) : failure ≠ .digitLimit := by
  obtain ⟨e, hstops, rfl⟩ := failure_readText_eq_some_iff.1 h
  rw [ne_eq, Failure.ofError_eq_digitLimit_iff, not_not]
  exact hstops.isWritable hlines

/-- **Reading in two parts is reading the whole.**  For every store and every text that is empty or
ends with a line feed, whatever text follows it:

* the stores are the same but for line numbers, also if reading fails;
* reading the parts fails exactly if reading the whole does;
* a failure in the first part is that of the whole, and a failure in the second part is the same
  error, so many lines further up as the first part has line feeds;
* unless there are more lines than a number can say, both are errors, so they are of one category
  and their words differ in the line number alone. -/
theorem readText_append (store : Store) (file : String) {first : List Char}
    (hfirst : ∀ c ∈ first.getLast?, c = '\n') (second : List Char) :
    let parts := readTexts store file first second
    let whole := readText store file (first ++ second)
    parts.store.SameButLines whole.store ∧
      (parts.failure = none ↔ whole.failure = none) ∧
      (∀ failure, (readText store file first).failure = some failure →
        parts.failure = some failure ∧ whole.failure = some failure) ∧
      ((readText store file first).failure = none → ∀ near far,
        parts.failure = some near → whole.failure = some far →
        Failure.IsMovedDown .ofError file (first.count '\n') near far ∧
          (Numeral.IsWritable (Text.lines (first ++ second)).length →
            Failure.IsMovedDown .error file (first.count '\n') near far ∧
            ∃ (error error' : Error) (line : Int) (words : String),
              near = .error error ∧ far = .error error' ∧ error'.category = error.category ∧
              error.message = file ++ ":" ++ Numeral.decimal line ++ words ∧
              error'.message =
                file ++ ":" ++ Numeral.decimal (line + first.count '\n') ++ words)) := by
  dsimp only
  cases hfailure : (readText store file first).failure with
  | some failure =>
    obtain ⟨hstore, hwhole⟩ := readText_append_of_failure hfirst hfailure second
    rw [readTexts_of_failure hfailure, hstore, hfailure, hwhole]
    exact ⟨.refl _, by simp, fun _ h => ⟨h, h⟩, fun h => by cases h⟩
  | none =>
    obtain ⟨hstore, hsecond⟩ := readTexts_of_going hfailure second
    obtain ⟨hstores, hfailures⟩ := isMovedDown_readText_append hfirst hfailure second
    rw [hstore, hsecond]
    refine ⟨hstores, ?_, by simp, fun _ near far hnear hfar => ?_⟩
    · cases hnear : (readText (readText store file first).store file second).failure <;>
        cases hfar : (readText store file (first ++ second)).failure <;>
        simp [hnear, hfar] at hfailures ⊢
    · rw [hnear, hfar, Option.rel_some_some] at hfailures
      refine ⟨hfailures, fun hlines => ?_⟩
      have hsecond : Numeral.IsWritable (Text.lines second).length := by
        rw [Text.lines_append hfirst, List.length_append] at hlines
        exact hlines.mono (by omega)
      have herrors := hfailures.error (failure_readText_ne_digitLimit hsecond hnear)
        (failure_readText_ne_digitLimit hlines hfar)
      exact ⟨herrors, herrors.exists_message⟩

set_option maxRecDepth 2000 in
/-- The second of two parts has a symbol without an id on its second line, which is the fourth of
the whole. -/
theorem readText_append_fourth :
    let first := "info\tseg=1\nseg\tid=0\n".toList
    let second := "seg\tid=0\nsym\n".toList
    let near := .error (.malformed (.idMissing .symbol) (some ⟨"a", 2⟩))
    let far := .error (.malformed (.idMissing .symbol) (some ⟨"a", 4⟩))
    (readTexts .empty "a" first second).failure = some near ∧
      (readText .empty "a" (first ++ second)).failure = some far ∧
      Failure.IsMovedDown .error "a" 2 near far := by
  have hparts : (readTexts .empty "a" "info\tseg=1\nseg\tid=0\n".toList
      "seg\tid=0\nsym\n".toList).failure =
        some (.error (.malformed (.idMissing .symbol) (some ⟨"a", 2⟩))) := by
    rw [← Failure.ofError_of_isWritable (by decide +kernel)]
    rfl
  have hwhole : (readText .empty "a" ("info\tseg=1\nseg\tid=0\n".toList ++
      "seg\tid=0\nsym\n".toList)).failure =
        some (.error (.malformed (.idMissing .symbol) (some ⟨"a", 4⟩))) := by
    rw [← Failure.ofError_of_isWritable (by decide +kernel)]
    rfl
  exact ⟨hparts, hwhole,
    (((readText_append .empty "a" (by simp) _).2.2.2 rfl _ _ hparts hwhole).2
      (by decide +kernel)).1⟩

end Reading
end DebugLabels
