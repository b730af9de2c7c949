import DebugLabels.Text.Blank
import DebugLabels.Text.Digit

/-!
# Numerals

How integers are written and read, in decimal and in hexadecimal.

*Written*, a number is its sign, if negative, and its digits, lowercase and without leading zeros;
`writePadded` fills up to a width with zeros after the sign.

*Read*, a numeral may have padding around it, one sign, and single underscores between digits; a
digit may come from any script and a hexadecimal letter has either case. A hexadecimal numeral may
begin, after the sign, with `0x` or `0X` and then one underscore.

A decimal numeral has at most `digitLimit` digits, leading zeros counted, read or written
(`IsWritable`); a hexadecimal one has no limit.
-/

namespace DebugLabels

/-- The two ways to write a number. -/
inductive Radix
  | decimal
  | hexadecimal
  deriving DecidableEq, Repr

namespace Radix

/-- The number of digits. -/
def base : Radix → Nat
  | decimal => 10
  | hexadecimal => 16

/-- The value of a letter as a hexadecimal digit. -/
def hexLetter? (c : Char) : Option Nat :=
  if 'a' ≤ c ∧ c ≤ 'f' then some (c.toNat - 'a'.toNat + 10)
  else if 'A' ≤ c ∧ c ≤ 'F' then some (c.toNat - 'A'.toNat + 10)
  else none

/-- The value of a digit. -/
def digit? (radix : Radix) (c : Char) : Option Nat :=
  match radix with
  | decimal => Text.decimalDigit? c
  | hexadecimal => (Text.decimalDigit? c).or (hexLetter? c)

theorem one_lt_base (radix : Radix) : 1 < radix.base := by cases radix <;> decide

theorem hexLetter?_lt {c : Char} {d : Nat} (h : hexLetter? c = some d) : d < 16 := by
  unfold hexLetter? at h
  split at h
  · rename_i hc
    have h2 : c.toNat ≤ 'f'.toNat := hc.2
    simp only [Option.some.injEq] at h
    have : 'f'.toNat = 102 := rfl
    have : 'a'.toNat = 97 := rfl
    omega
  · split at h
    · rename_i hc
      have h2 : c.toNat ≤ 'F'.toNat := hc.2
      simp only [Option.some.injEq] at h
      have : 'F'.toNat = 70 := rfl
      have : 'A'.toNat = 65 := rfl
      omega
    · simp at h

/-- A digit is smaller than the base. -/
theorem digit?_lt {radix : Radix} {c : Char} {d : Nat} (h : radix.digit? c = some d) :
    d < radix.base := by
  cases radix with
  | decimal => exact Text.decimalDigit?_lt h
  | hexadecimal =>
    simp only [digit?, Option.or_eq_some_iff] at h
    rcases h with h | ⟨_, h⟩
    · have := Text.decimalDigit?_lt h
      simp only [base]
      omega
    · exact hexLetter?_lt h

/-- A written digit has its value. -/
theorem digit?_digitChar (radix : Radix) {d : Nat} (h : d < radix.base) :
    radix.digit? (Nat.digitChar d) = some d := by
  cases radix with
  | decimal =>
    have all : ∀ d : Fin 10, Radix.decimal.digit? (Nat.digitChar d) = some d.val := by decide
    exact all ⟨d, h⟩
  | hexadecimal =>
    have all : ∀ d : Fin 16, Radix.hexadecimal.digit? (Nat.digitChar d) = some d.val := by decide
    exact all ⟨d, h⟩

end Radix

namespace Numeral

/-- The greatest number of digits of a decimal numeral. -/
def digitLimit : Nat := 4300

/-- A number that has a decimal numeral. -/
def IsWritable (n : Int) : Prop := n.natAbs < Nat.pow 10 digitLimit

instance (n : Int) : Decidable (IsWritable n) := inferInstanceAs (Decidable (_ < _))

/-- A number with one digit more than is allowed has none. -/
theorem not_isWritable_pow : ¬ IsWritable (Nat.pow 10 digitLimit : Nat) := by
  rw [IsWritable, Int.natAbs_natCast]
  exact Nat.lt_irrefl _

/-- The sign of a written number. -/
def sign (n : Int) : List Char := if n < 0 then ['-'] else []

/-- The written form of a number. -/
def write (radix : Radix) (n : Int) : List Char := sign n ++ Nat.toDigits radix.base n.natAbs

/-- The written form with zeros after the sign, up to a width. -/
def writePadded (radix : Radix) (width : Nat) (n : Int) : List Char :=
  let digits := Nat.toDigits radix.base n.natAbs
  sign n ++ digits.leftpad (width - (sign n).length) '0'

/-- A number in decimal. -/
def decimal (n : Int) : String := String.ofList (write .decimal n)

/-- A number in lowercase hexadecimal. -/
def hex (n : Int) : String := String.ofList (write .hexadecimal n)

/-- A number in uppercase hexadecimal. -/
def upperHex (n : Int) : String := String.ofList ((write .hexadecimal n).map Char.toUpper)

/-- An address in uppercase hexadecimal, four characters wide at least. -/
def address (n : Int) : String :=
  String.ofList ((writePadded .hexadecimal 4 n).map Char.toUpper)

/-- The values of digits with at most one underscore between two of them. -/
def digits? (radix : Radix) : List Char → Option (List Nat)
  | [] => none
  | [c] => (radix.digit? c).map fun d => [d]
  | c :: '_' :: cs => do
    let d ← radix.digit? c
    let ds ← digits? radix cs
    return d :: ds
  | c :: next :: cs => do
    let d ← radix.digit? c
    let ds ← digits? radix (next :: cs)
    return d :: ds

/-- The number that digits stand for, the most significant first. -/
def ofDigits (base : Nat) (ds : List Nat) : Nat := ds.foldl (fun n d => n * base + d) 0

/-- A numeral without padding, sign and prefix: at least one digit, and no more than allowed. -/
def magnitude? (radix : Radix) (cs : List Char) : Option Nat := do
  let ds ← digits? radix cs
  if radix = .decimal ∧ digitLimit < ds.length then none
  else some (ofDigits radix.base ds)

/-- A hexadecimal numeral without its prefix: a digit zero of any script, an `x`, and at most one
underscore. -/
def dropPrefix (radix : Radix) (cs : List Char) : List Char :=
  match radix, cs with
  | .hexadecimal, c :: x :: rest =>
    if Text.decimalDigit? c = some 0 ∧ (x = 'x' ∨ x = 'X') then
      match rest with
      | '_' :: rest => rest
      | _ => rest
    else cs
  | _, _ => cs

/-- A numeral without padding. -/
def readSigned? (radix : Radix) (cs : List Char) : Option Int :=
  match cs with
  | '-' :: rest => (magnitude? radix (dropPrefix radix rest)).map fun n : Nat => -(n : Int)
  | '+' :: rest => (magnitude? radix (dropPrefix radix rest)).map fun n : Nat => (n : Int)
  | _ => (magnitude? radix (dropPrefix radix cs)).map fun n : Nat => (n : Int)

/-- The number that a numeral stands for, if the text is one. -/
def read? (radix : Radix) (cs : List Char) : Option Int :=
  readSigned? radix (Text.trim Text.isNumberPadding cs)

/-- A decimal number as a field holds it: a numeral among blanks. -/
def decimal? (text : String) : Option Int :=
  read? .decimal (Text.trim Text.isBlank text.toList)

/-- A text without the dollar sign in front. -/
def dropDollar : List Char → List Char
  | '$' :: cs => cs
  | cs => cs

/-- A hexadecimal number as a field holds it: a numeral among blanks, or one after a dollar sign. -/
def hex? (text : String) : Option Int :=
  read? .hexadecimal (dropDollar (Text.trim Text.isBlank text.toList))

/-- Digits below the base stand for a number below the power of their count. -/
theorem ofDigits_lt {base : Nat} {ds : List Nat} (h : ∀ d ∈ ds, d < base) :
    ofDigits base ds < Nat.pow base ds.length := by
  have shifted : ∀ n,
      ds.foldl (fun n d => n * base + d) n < (n + 1) * Nat.pow base ds.length := by
    induction ds with
    | nil => simp
    | cons d ds ih =>
      intro n
      have hd : n * base + d + 1 ≤ (n + 1) * base := by
        have := h d (by simp)
        rw [Nat.add_mul]
        omega
      calc (d :: ds).foldl (fun n d => n * base + d) n
          < (n * base + d + 1) * Nat.pow base ds.length :=
            ih (fun d hd => h d (List.mem_cons_of_mem _ hd)) _
        _ ≤ (n + 1) * base * Nat.pow base ds.length := Nat.mul_le_mul_right _ hd
        _ = (n + 1) * Nat.pow base (d :: ds).length := by
            show (n + 1) * base * Nat.pow base ds.length = (n + 1) * (Nat.pow base ds.length * base)
            rw [Nat.mul_assoc, Nat.mul_comm base]
  simpa [ofDigits] using shifted 0

theorem lt_base_of_digits? {radix : Radix} {cs : List Char} {ds : List Nat}
    (h : digits? radix cs = some ds) : ∀ d ∈ ds, d < radix.base := by
  fun_induction digits? radix cs generalizing ds with
  | case1 => simp at h
  | case2 c =>
    obtain ⟨d, hd, rfl⟩ := Option.map_eq_some_iff.1 h
    simpa using Radix.digit?_lt hd
  | case3 c cs ih =>
    simp only [Option.bind_eq_bind, Option.bind_eq_some_iff, Option.pure_def,
      Option.some.injEq] at h
    obtain ⟨d, hd, rest, hrest, rfl⟩ := h
    simpa using ⟨Radix.digit?_lt hd, ih hrest⟩
  | case4 c next cs _ ih =>
    simp only [Option.bind_eq_bind, Option.bind_eq_some_iff, Option.pure_def,
      Option.some.injEq] at h
    obtain ⟨d, hd, rest, hrest, rfl⟩ := h
    simpa using ⟨Radix.digit?_lt hd, ih hrest⟩

/-- A decimal magnitude stays below the limit. -/
theorem magnitude?_decimal_lt {cs : List Char} {n : Nat} (h : magnitude? .decimal cs = some n) :
    n < Nat.pow 10 digitLimit := by
  simp only [magnitude?, Option.bind_eq_bind, Option.bind_eq_some_iff, true_and] at h
  obtain ⟨ds, hds, hn⟩ := h
  split at hn
  · simp at hn
  · rename_i hlimit
    cases hn
    have hlt : ofDigits 10 ds < Nat.pow 10 ds.length := ofDigits_lt (lt_base_of_digits? hds)
    generalize digitLimit = limit at hlimit ⊢
    exact Nat.lt_of_lt_of_le hlt (Nat.pow_le_pow_right (by decide) (Nat.le_of_not_lt hlimit))

/-- What is read in decimal can be written in decimal. -/
theorem isWritable_of_read? {cs : List Char} {n : Int} (h : read? .decimal cs = some n) :
    IsWritable n := by
  unfold read? readSigned? at h
  split at h <;>
  · obtain ⟨m, hm, rfl⟩ := Option.map_eq_some_iff.1 h
    simpa [IsWritable] using magnitude?_decimal_lt hm

theorem isWritable_of_decimal? {text : String} {n : Int} (h : decimal? text = some n) :
    IsWritable n :=
  isWritable_of_read? h

/-- Both radixes, a sign, an underscore, and a digit of another script. -/
example : read? .decimal ['-', '1', '_', '0'] = some (-10) ∧
    read? .hexadecimal ['0', 'X', '_', 'f', '\u0661'] = some 0xF1 := by decide

/-- No digits, a leading underscore, a double one, a sign apart from its digits. -/
example : [['0', 'x'], ['_', '1'], ['1', '_', '_', '1'], ['+', ' ', '1']].map (read? .hexadecimal) =
    [none, none, none, none] := by decide

/-- The sign counts for the width. -/
example : writePadded .hexadecimal 4 (-1) = ['-', '0', '0', '1'] := by decide

end Numeral
end DebugLabels
