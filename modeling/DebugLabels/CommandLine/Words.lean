import DebugLabels.CommandLine.Arguments

/-!
# The words of the command

Options and files come in any order, and `--` ends the options. The value of an option is the rest
of its word, after a `=` if its name is long, or else the next word, whatever that looks like. Short
options without values may share a word with those that follow. The last of several values counts.
A `-` alone is a file.

Words are read from the left, each after the `Progress` made so far. A `-v` in front changes nothing
but that the command is verbose: `Progress.loud` goes through every step (`Progress.read_loud`), so
through all of them (`Progress.foldlM_read_loud`, `Arguments.ofWords_verbose`).
-/

namespace DebugLabels
namespace CommandLine

/-- The options. -/
inductive Flag
  | base
  | expansionRam
  | ranges
  | noRanges
  | verbose
  | version
  | help
  deriving DecidableEq, Repr

namespace Flag

/-- The option has a value. -/
def takesValue : Flag → Bool
  | base | expansionRam => true
  | _ => false

/-- The option of a long name. -/
def ofLong? : String → Option Flag
  | "--base" => some base
  | "--expansion-ram" => some expansionRam
  | "--ranges" => some ranges
  | "--no-ranges" => some noRanges
  | "--verbose" => some verbose
  | "--version" => some version
  | "--help" => some help
  | _ => none

/-- The option of a letter. -/
def ofShort? : Char → Option Flag
  | 'b' => some base
  | 'e' => some expansionRam
  | 'v' => some verbose
  | _ => none

end Flag

namespace Arguments

/-- One more file. -/
def addFile (arguments : Arguments) (file : String) : Arguments :=
  { arguments with files := arguments.files ++ [file] }

/-- One more option, with its value if it has one. -/
def set (arguments : Arguments) (value : String) : Flag → Arguments
  | .base => { arguments with base := some value }
  | .expansionRam => { arguments with ram := some value }
  | .ranges => { arguments with ranges := true }
  | .noRanges => { arguments with ranges := false }
  | .verbose => { arguments with verbose := true }
  | .version => { arguments with inquiry := arguments.inquiry.or (some .version) }
  | .help => { arguments with inquiry := arguments.inquiry.or (some .help) }

end Arguments

/-- What the next word is. -/
inductive Expected
  /-- An option or a file. -/
  | word
  /-- The value of an option that goes by a name. -/
  | value (flag : Flag) (name : String)
  /-- A file. -/
  | file
  deriving DecidableEq, Repr

/-- How far the words are read. -/
structure Progress where
  arguments : Arguments := {}
  expected : Expected := .word

namespace Progress

/-- A long option, and its value if it is in the same word. -/
def readLong (progress : Progress) (flag : Flag) (name : String) (value : Option String) :
    Except UsageError Progress :=
  match flag.takesValue, value with
  | true, some value => .ok { progress with arguments := progress.arguments.set value flag }
  | true, none => .ok { progress with expected := .value flag name }
  | false, some _ => .error (.valueNotTaken name)
  | false, none => .ok { progress with arguments := progress.arguments.set "" flag }

/-- Short options that share a word. -/
def readShort (progress : Progress) : List Char → Except UsageError Progress
  | [] => .ok progress
  | c :: cs =>
    let name := String.ofList ['-', c]
    match Flag.ofShort? c with
    | none => .error (.noSuchOption name)
    | some flag =>
      if flag.takesValue then
        if cs.isEmpty then .ok { progress with expected := .value flag name }
        else .ok { progress with arguments := progress.arguments.set (String.ofList cs) flag }
      else readShort { progress with arguments := progress.arguments.set "" flag } cs

/-- A long option's word: its name, and its value after the first `=`. -/
def cutLong (cs : List Char) : String × Option String :=
  (String.ofList (cs.takeWhile (· ≠ '=')),
    match cs.dropWhile (· ≠ '=') with
    | _ :: value => some (String.ofList value)
    | [] => none)

/-- A word that may be an option. -/
def readWord (progress : Progress) (word : String) : Except UsageError Progress :=
  match word.toList with
  | ['-', '-'] => .ok { progress with expected := .file }
  | '-' :: '-' :: cs =>
    let (name, value) := cutLong ('-' :: '-' :: cs)
    match Flag.ofLong? name with
    | some flag => progress.readLong flag name value
    | none => .error (.noSuchOption name)
  | '-' :: c :: cs => progress.readShort (c :: cs)
  | _ => .ok { progress with arguments := progress.arguments.addFile word }

/-- The next word. -/
def read (progress : Progress) (word : String) : Except UsageError Progress :=
  match progress.expected with
  | .word => progress.readWord word
  | .value flag _ =>
    .ok { arguments := progress.arguments.set word flag, expected := .word }
  | .file => .ok { progress with arguments := progress.arguments.addFile word }

end Progress

/-- The arguments of the command's words. -/
def Arguments.ofWords (words : List String) : Except UsageError Arguments := do
  let progress ← words.foldlM Progress.read {}
  match progress.expected with
  | .value _ name => .error (.valueMissing name)
  | _ => .ok progress.arguments

/-! ### Verbose commands -/

/-- A verbose command, read as far. -/
def Progress.loud (progress : Progress) : Progress :=
  { progress with arguments := progress.arguments.loud }

theorem Arguments.set_loud (arguments : Arguments) (value : String) (flag : Flag) :
    arguments.loud.set value flag = (arguments.set value flag).loud := by
  cases flag <;> rfl

namespace Progress

variable (progress : Progress)

theorem readLong_loud (flag : Flag) (name : String) (value : Option String) :
    progress.loud.readLong flag name value = (progress.readLong flag name value).map loud := by
  unfold readLong
  cases flag.takesValue <;> cases value <;>
    simp only [Except.map, loud, Arguments.set_loud]

theorem readShort_loud (cs : List Char) :
    progress.loud.readShort cs = (progress.readShort cs).map loud := by
  induction cs generalizing progress with
  | nil => rfl
  | cons c cs ih =>
    unfold readShort
    cases Flag.ofShort? c with
    | none => rfl
    | some flag =>
      dsimp only
      split
      · split
        · rfl
        · simp only [Except.map, loud, Arguments.set_loud]
      · rw [← ih]
        simp only [loud, Arguments.set_loud]

theorem readWord_loud (word : String) :
    progress.loud.readWord word = (progress.readWord word).map loud := by
  unfold readWord
  split
  · rfl
  · dsimp only
    split
    · exact readLong_loud progress _ _ _
    · rfl
  · exact readShort_loud progress _
  · rfl

/-- **A word is read alike.** -/
theorem read_loud (word : String) : progress.loud.read word = (progress.read word).map loud := by
  obtain ⟨arguments, expected⟩ := progress
  cases expected with
  | word => exact readWord_loud ⟨arguments, .word⟩ word
  | value flag name =>
    show (Except.ok ⟨arguments.loud.set word flag, .word⟩ : Except UsageError Progress) = _
    rw [Arguments.set_loud]
    rfl
  | file => rfl

/-- All words are read alike, by induction on them. -/
theorem foldlM_read_loud (words : List String) :
    words.foldlM read progress.loud = (words.foldlM read progress).map loud := by
  induction words generalizing progress with
  | nil => rfl
  | cons word words ih =>
    rw [List.foldlM_cons, List.foldlM_cons, read_loud]
    cases progress.read word with
    | error error => rfl
    | ok next => exact ih next

end Progress

theorem Arguments.ofWords_verbose (words : List String) :
    Arguments.ofWords ("-v" :: words) = (Arguments.ofWords words).map loud := by
  have hfirst : Progress.read {} "-v" = .ok (Progress.loud {}) := rfl
  unfold Arguments.ofWords
  rw [List.foldlM_cons, hfirst]
  show (words.foldlM Progress.read (Progress.loud {}) >>= _) = _
  rw [Progress.foldlM_read_loud]
  cases words.foldlM Progress.read {} with
  | error error => rfl
  | ok progress =>
    obtain ⟨arguments, expected⟩ := progress
    cases expected <;> rfl

end CommandLine
end DebugLabels
