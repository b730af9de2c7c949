import DebugLabels.Proofs.Command
import DebugLabels.Proofs.ShownNumbers

/-!
# Verbose commands

A command with `-v` in front of its words does what it does without, and tells more of it.

The words are read alike, which is a law of the library, so they make the same instruction, but a
verbose one (`instruct_verbose`). What an instruction leaves behind has nothing to do with what it
tells (`carryOut_loud`), since what a request comes to is a function that does not ask whether it is
verbose (`run_convert`).

What is told in between is text, and the one text that cannot always be made is that of a number.
`closingNumbers` are those that only a verbose command shows; they count records, symbols and labels
(`le_of_mem_closingNumbers`). The notices show ids and counts (`shows_listed`), and the base offset
is shown in hexadecimal.
-/

namespace DebugLabels
namespace CommandLine

/-! ### From words to an instruction -/

/-- A verbose request. -/
def Request.loud (request : Request) : Request := { request with verbose := true }

/-- The instruction of a verbose command. -/
def Instruction.loud : Instruction → Instruction
  | convert request => convert request.loud
  | inquire inquiry => inquire inquiry
  | refuse error => refuse error

theorem instructionOf_loud (kit : Toolkit) (environment : Environment) (arguments : Arguments)
    (input : String) (rest : List String) (fault : Option UsageError) :
    kit.instructionOf environment arguments.loud input rest fault =
      (kit.instructionOf environment arguments input rest fault).loud := by
  unfold Toolkit.instructionOf
  cases fault with
  | some fault => rfl
  | none => cases rest.tail <;> rfl

section

variable {m : Type → Type} [Monad m] [LawfulMonad m]

theorem Instruction.pure_loud (instruction : Instruction) :
    (pure instruction.loud : m Instruction) = loud <$> pure instruction :=
  (map_pure loud instruction).symm

/-- Files make the same instruction, but a verbose one. -/
theorem instructFiles_loud (kit : Toolkit) (disk : Disk m) (environment : Environment)
    (arguments : Arguments) :
    kit.instructFiles disk environment arguments.loud =
      Instruction.loud <$> kit.instructFiles disk environment arguments := by
  unfold Toolkit.instructFiles
  rw [show arguments.loud.files = arguments.files from rfl]
  cases arguments.files with
  | nil => exact Instruction.pure_loud (.refuse .inputMissing)
  | cons input rest =>
    dsimp only
    rw [map_bind]
    refine bind_congr fun fault => ?_
    rw [instructionOf_loud]
    exact Instruction.pure_loud _

/-- **The words of a verbose command make the same instruction**, but a verbose one. -/
theorem instruct_verbose (kit : Toolkit) (disk : Disk m) (environment : Environment)
    (words : List String) :
    kit.instruct disk environment ("-v" :: words) =
      Instruction.loud <$> kit.instruct disk environment words := by
  unfold Toolkit.instruct
  rw [kit.parse_verbose]
  cases kit.parse words with
  | error error => exact Instruction.pure_loud (.refuse error)
  | ok arguments =>
    dsimp only [Except.map]
    rw [show arguments.loud.inquiry = arguments.inquiry from rfl]
    cases arguments.inquiry with
    | some inquiry => exact Instruction.pure_loud (.inquire inquiry)
    | none => exact instructFiles_loud kit disk environment arguments

end

/-! ### What a verbose command leaves behind -/

/-- **A verbose request ends alike** on the standard output, with the same exit code and the same
files: what a request comes to has nothing to do with what it tells. -/
theorem convert_loud (kit : Toolkit) (request : Request) (files : Files) :
    let loud := (kit.convert Files.disk request.loud).run files
    let plain := (kit.convert Files.disk request).run files
    loud.1.code = plain.1.code ∧ loud.1.stdout = plain.1.stdout ∧ loud.2 = plain.2 := by
  have hconvert : request.loud.convert files = request.convert files := rfl
  obtain ⟨told, -, hloud⟩ := run_convert kit request.loud files
  obtain ⟨told', -, hplain⟩ := run_convert kit request files
  rw [hconvert] at hloud
  dsimp only
  rw [hloud, hplain]
  cases request.convert files with
  | error failure => exact ⟨rfl, rfl, rfl⟩
  | ok converted => exact ⟨rfl, rfl, rfl⟩

theorem carryOut_loud (kit : Toolkit) (instruction : Instruction) (files : Files) :
    let loud := (kit.carryOut Files.disk instruction.loud).run files
    let plain := (kit.carryOut Files.disk instruction).run files
    loud.1.code = plain.1.code ∧ loud.1.stdout = plain.1.stdout ∧ loud.2 = plain.2 := by
  cases instruction with
  | convert request => exact convert_loud kit request files
  | inquire inquiry => exact ⟨rfl, rfl, rfl⟩
  | refuse error => exact ⟨rfl, rfl, rfl⟩

/-! ### What a verbose command shows -/

/-- The numbers that the last lines of a verbose command show in decimal. -/
def closingNumbers (store : Store) (listing : Listing) : List Nat :=
  store.summary.map Prod.snd ++
    listing.lines.length :: listing.symbolsRead :: Region.all.map listing.count

/-- No number in the last lines is greater than the number of calls that filled the store. -/
theorem le_of_mem_closingNumbers {settings : Settings} {calls : List Call} {listing : Listing}
    (h : ((Store.empty.afterAll calls).listing settings).outcome = .ok listing) :
    ∀ n ∈ closingNumbers (Store.empty.afterAll calls) listing, n ≤ calls.length := by
  obtain ⟨hsymbols, hlines, hcount⟩ := Store.count_listing_le h
  have hle := Store.count_afterAll_le calls (.table .symbol)
  intro n hn
  rw [closingNumbers, List.mem_append, List.mem_cons, List.mem_cons, List.mem_map,
    List.mem_map] at hn
  rcases hn with ⟨⟨name, count⟩, hpair, rfl⟩ | rfl | rfl | ⟨region, -, rfl⟩
  · exact Store.le_of_mem_summary hpair
  · omega
  · omega
  · have := hcount region
    omega

/-- The store of a file that could be opened is that of a sequence of calls, no more of them than
the file has lines. -/
theorem exists_calls_of_storeOfFile {input : Path} {content : ByteArray} {store : Store}
    (h : (storeOfFile input (.ok content)).outcome = .ok store) :
    ∃ calls : List Call, store = Store.empty.afterAll calls ∧
      calls.length ≤ (Text.lines (debugFileText content)).length := by
  simp only [storeOfFile, Logged.outcome_bind_eq_ok_iff, Reading.result] at h
  obtain ⟨-, -, h⟩ := h
  split at h
  · cases h
  · obtain rfl := Except.ok.inj h
    exact Reading.exists_store_readText input.name (debugFileText content)

theorem hasWritableIds_of_storeOfFile {input : Path} {content : ByteArray} {store : Store}
    (h : (storeOfFile input (.ok content)).outcome = .ok store) : store.HasWritableIds := by
  obtain ⟨calls, rfl, -⟩ := exists_calls_of_storeOfFile h
  exact Store.hasWritableIds_afterAll calls

/-- **Whatever is told of a debug file shows numbers that were read in decimal**, or that are not
greater than the number of its lines. -/
theorem shows_listed (input : Path) (settings : Settings) (content : ByteArray) :
    let outcome := listed settings (storeOfFile input (.ok content))
    let lines := (Text.lines (debugFileText content)).length
    (∀ notice ∈ outcome.notices, ∀ n ∈ notice.numbers,
      Numeral.IsWritable n ∨ n.natAbs ≤ lines) ∧
    ∀ store listing, outcome.outcome = .ok (store, listing) →
      ∀ n ∈ closingNumbers store listing, n ≤ lines := by
  have hfile : ∀ notice ∈ (storeOfFile input (.ok content)).notices, ∀ n ∈ notice.numbers,
      Numeral.IsWritable n ∨ n.natAbs ≤ (Text.lines (debugFileText content)).length := by
    intro notice hnotice n hn
    unfold storeOfFile at hnotice
    dsimp only at hnotice
    rcases Logged.mem_notices_bind hnotice with hnotice | ⟨-, -, hnotice⟩
    · rw [List.mem_singleton.1 hnotice] at hn
      cases hn
    · exact Reading.shows_readText input.name (debugFileText content) notice hnotice n hn
  constructor
  · intro notice hnotice
    unfold listed at hnotice
    rcases Logged.mem_notices_bind hnotice with hnotice | ⟨store, hstore, hnotice⟩
    · exact hfile notice hnotice
    · rcases Logged.mem_notices_bind hnotice with hnotice | ⟨listing, -, hnotice⟩
      · exact fun n hn => .inl
          (Store.isWritable_of_mem_listing (hasWritableIds_of_storeOfFile hstore) hnotice n hn)
      · cases hnotice
  · intro store listing h n hn
    simp only [listed, Logged.outcome_bind_eq_ok_iff, Logged.outcome_pure, Except.ok.injEq,
      Prod.mk.injEq] at h
    obtain ⟨_, hstore, _, hlisting, rfl, rfl⟩ := h
    obtain ⟨calls, rfl, hlength⟩ := exists_calls_of_storeOfFile hstore
    exact (le_of_mem_closingNumbers hlisting n hn).trans hlength

/-- **A verbose command does what it does otherwise**: with `-v` in front of its words it ends with
the same exit code, writes the same on the standard output and leaves the same files.

Nothing that it tells on the way stands against that: a number that it shows in decimal was read in
decimal, so it can be written, or it counts something in the debug file, which has as many lines at
least. -/
theorem run_verbose (kit : Toolkit) (files : Files) (environment : Environment)
    (words : List String) :
    let loud := (kit.run Files.disk environment ("-v" :: words)).run files
    let plain := (kit.run Files.disk environment words).run files
    (loud.1.code = plain.1.code ∧ loud.1.stdout = plain.1.stdout ∧ loud.2 = plain.2) ∧
    ∀ input settings content,
      let outcome := listed settings (storeOfFile input (.ok content))
      let lines := (Text.lines (debugFileText content)).length
      (∀ notice ∈ outcome.notices, ∀ n ∈ notice.numbers,
        Numeral.IsWritable n ∨ n.natAbs ≤ lines) ∧
      ∀ store listing, outcome.outcome = .ok (store, listing) →
        ∀ n ∈ closingNumbers store listing, n ≤ lines := by
  refine ⟨?_, shows_listed⟩
  have hloud :
      ((Instruction.loud <$> kit.instruct Files.disk environment words).run files).1 =
        ((kit.instruct Files.disk environment words).run files).1.loud := rfl
  rw [run_run, run_run, instruct_verbose, hloud]
  exact carryOut_loud kit _ files

end CommandLine
end DebugLabels
