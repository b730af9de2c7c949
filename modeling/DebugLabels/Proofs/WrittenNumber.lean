import Mathlib.Data.List.Forall2
import DebugLabels.Proofs.Text
import DebugLabels.Numeral

/-!
# Written numbers are read back

A written number is its sign and its digits, the most significant first (`exists_digits`).  Its
digits are the sixteen plain ones, which are no blanks, signs or prefixes, so that each step of
reading leaves them alone (`magnitude?_toDigits`, `readSigned?_toDigits`).  Digits in general are
read one by one (`digits?_of_forall₂`).

The main statements are `read?_write`, for both radixes, and `decimal?_decimal` and `hex?_hex`, for
the number of a field.
-/

namespace DebugLabels

theorem Radix.base_le (radix : Radix) : radix.base ≤ 16 := by cases radix <;> decide

namespace Numeral

variable {radix : Radix} {c : Char}

/-! ### Written digits -/

/-- The written digits of a number are the digits that it is made of. -/
theorem exists_digits {base : Nat} (hbase : 1 < base) (n : Nat) :
    ∃ ds : List Nat, Nat.toDigits base n = ds.map Nat.digitChar ∧ (∀ d ∈ ds, d < base) ∧
      ofDigits base ds = n := by
  induction n using Nat.strongRecOn with
  | ind n ih =>
    by_cases hn : n < base
    · refine ⟨[n], ?_, ?_, ?_⟩
      · rw [Nat.toDigits_of_lt_base hn, List.map_singleton]
      · simpa using hn
      · simp [ofDigits]
    · have hle : base ≤ n := Nat.le_of_not_lt hn
      obtain ⟨ds, hds, hlt, hvalue⟩ := ih (n / base) (Nat.div_lt_self (by omega) hbase)
      have hlast : n % base < base := Nat.mod_lt n (by omega)
      refine ⟨ds ++ [n % base], ?_, ?_, ?_⟩
      · rw [Nat.toDigits_of_base_le hbase hle, hds, List.map_append, List.map_singleton]
      · intro d hd
        rcases List.mem_append.1 hd with hd | hd
        · exact hlt d hd
        · rw [List.mem_singleton.1 hd]
          exact hlast
      · rw [ofDigits, List.foldl_append, ← ofDigits, hvalue]
        exact Nat.div_add_mod' n base

/-- What holds of the sixteen plain digits holds of every character of a written magnitude. -/
theorem of_mem_toDigits {P : Char → Prop} (h : ∀ d : Fin 16, P (Nat.digitChar d)) {n : Nat}
    (hc : c ∈ Nat.toDigits radix.base n) : P c := by
  obtain ⟨ds, hds, hlt, -⟩ := exists_digits radix.one_lt_base n
  rw [hds] at hc
  obtain ⟨d, hd, rfl⟩ := List.mem_map.1 hc
  exact h ⟨d, Nat.lt_of_lt_of_le (hlt d hd) radix.base_le⟩

/-- **Digits side by side are read one by one.** -/
theorem digits?_of_forall₂ {cs : List Char} {ds : List Nat} (hne : cs ≠ [])
    (h : List.Forall₂ (fun c d => radix.digit? c = some d) cs ds) : digits? radix cs = some ds := by
  induction h with
  | nil => exact absurd rfl hne
  | cons hc hrest ih =>
    cases hrest with
    | nil => simp [digits?, hc]
    | @cons next _ cs _ hnext _ =>
      -- an underscore is no digit, so none stands between the two
      have hunderscore : next ≠ '_' := by
        rintro rfl
        have hnone : radix.digit? '_' = none := by cases radix <;> decide
        rw [hnone] at hnext
        cases hnext
      rw [digits?.eq_4 radix _ _ _ hunderscore, hc, ih (List.cons_ne_nil next cs)]
      rfl

/-- The number that they stand for, if they are not too many. -/
theorem magnitude?_of_forall₂ {cs : List Char} {ds : List Nat} (hne : cs ≠ [])
    (h : List.Forall₂ (fun c d => radix.digit? c = some d) cs ds)
    (hlimit : radix = .decimal → cs.length ≤ digitLimit) :
    magnitude? radix cs = some (ofDigits radix.base ds) := by
  have hshort : ¬(radix = .decimal ∧ digitLimit < ds.length) := by
    rintro ⟨hdecimal, hlong⟩
    rw [← h.length_eq] at hlong
    exact absurd (hlimit hdecimal) (Nat.not_le_of_lt hlong)
  rw [magnitude?, digits?_of_forall₂ hne h]
  simp [hshort]

/-- The plain digits are read as the digits they show. -/
theorem forall₂_digit?_digitChar {ds : List Nat} (h : ∀ d ∈ ds, d < radix.base) :
    List.Forall₂ (fun c d => radix.digit? c = some d) (ds.map Nat.digitChar) ds := by
  rw [List.forall₂_map_left_iff, List.forall₂_same]
  exact fun d hd => radix.digit?_digitChar (h d hd)

/-- A number below the power of ten has no more digits than a numeral may have. -/
theorem length_toDigits_le_digitLimit {n : Nat} (h : n < Nat.pow 10 digitLimit) :
    (Nat.toDigits Radix.decimal.base n).length ≤ digitLimit := by
  have hpos : 0 < digitLimit := by decide
  -- the power of ten must not be computed
  generalize digitLimit = limit at hpos h ⊢
  exact (Nat.length_toDigits_le_iff (Radix.one_lt_base _) hpos).2 h

/-- A written magnitude is read as the number. -/
theorem magnitude?_toDigits {n : Nat} (h : radix = .decimal → n < Nat.pow 10 digitLimit) :
    magnitude? radix (Nat.toDigits radix.base n) = some n := by
  obtain ⟨ds, hds, hlt, hvalue⟩ := exists_digits radix.one_lt_base n
  have hread := forall₂_digit?_digitChar hlt
  rw [← hds] at hread
  have hlimit : radix = .decimal → (Nat.toDigits radix.base n).length ≤ digitLimit := by
    rintro rfl
    exact length_toDigits_le_digitLimit (h rfl)
  rw [magnitude?_of_forall₂ Nat.toDigits_ne_nil hread hlimit, hvalue]

/-! ### Written numbers -/

/-- Without an `x` there is no prefix. -/
theorem dropPrefix_of_forall {cs : List Char} (h : ∀ c ∈ cs, c ≠ 'x' ∧ c ≠ 'X') :
    dropPrefix radix cs = cs := by
  unfold dropPrefix
  split
  · rename_i c x rest
    obtain ⟨hlower, hupper⟩ := h x (by simp)
    rw [if_neg fun hprefix => hprefix.2.elim hlower hupper]
  · rfl

/-- Written digits have no prefix. -/
theorem dropPrefix_toDigits (n : Nat) :
    dropPrefix radix (Nat.toDigits radix.base n) = Nat.toDigits radix.base n :=
  dropPrefix_of_forall fun _ hc => of_mem_toDigits (P := fun c => c ≠ 'x' ∧ c ≠ 'X') (by decide) hc

/-- A numeral without a sign is its magnitude. -/
theorem readSigned?_of_forall {cs : List Char} (h : ∀ c ∈ cs.head?, c ≠ '-' ∧ c ≠ '+') :
    readSigned? radix cs = (magnitude? radix (dropPrefix radix cs)).map fun n : Nat => (n : Int) := by
  unfold readSigned?
  split
  · exact absurd rfl (h '-' rfl).1
  · exact absurd rfl (h '+' rfl).2
  · rfl

theorem readSigned?_toDigits {n : Nat} (h : radix = .decimal → n < Nat.pow 10 digitLimit) :
    readSigned? radix (Nat.toDigits radix.base n) = some (n : Int) := by
  have hsign : ∀ c ∈ Nat.toDigits radix.base n, c ≠ '-' ∧ c ≠ '+' :=
    fun c hc => of_mem_toDigits (P := fun c => c ≠ '-' ∧ c ≠ '+') (by decide) hc
  rw [readSigned?_of_forall fun c hc => hsign c (List.mem_of_mem_head? hc), dropPrefix_toDigits,
    magnitude?_toDigits h, Option.map_some]

/-- What holds of the sign holds of every character in front of the digits. -/
theorem of_mem_sign {P : Char → Prop} (h : P '-') {n : Int} (hc : c ∈ sign n) : P c := by
  unfold sign at hc
  split at hc
  · rwa [List.mem_singleton.1 hc]
  · exact absurd hc List.not_mem_nil

/-- What holds of the sign and of the sixteen plain digits holds of every character of a written
number. -/
theorem of_mem_write {P : Char → Prop} (hsign : P '-') (h : ∀ d : Fin 16, P (Nat.digitChar d))
    {n : Int} (hc : c ∈ write radix n) : P c :=
  (List.mem_append.1 hc).elim (of_mem_sign hsign) (of_mem_toDigits h)

/-- A written number holds no blank. -/
theorem isBlank_of_mem_write {n : Int} (hc : c ∈ write radix n) : Text.isBlank c = false :=
  of_mem_write (P := fun c => Text.isBlank c = false) (by decide) (by decide) hc

/-- A numeral without blanks needs no trimming. -/
theorem read?_of_forall {cs : List Char} (h : ∀ c ∈ cs, Text.isBlank c = false) :
    read? radix cs = readSigned? radix cs := by
  have hpadding : ∀ c ∈ cs, Text.isNumberPadding c = false := by
    intro c hc
    rw [Text.isNumberPadding, h c hc, Bool.false_and]
  rw [read?, Text.trim_eq_self_of_forall hpadding]

/-- **A written number is read back**, in decimal if it has a decimal numeral. -/
theorem read?_write {n : Int} (h : radix = .decimal → IsWritable n) :
    read? radix (write radix n) = some n := by
  rw [read?_of_forall fun _ => isBlank_of_mem_write, write, sign]
  by_cases hneg : n < 0
  · rw [if_pos hneg, List.singleton_append, readSigned?, dropPrefix_toDigits,
      magnitude?_toDigits h, Option.map_some]
    congr 1
    omega
  · rw [if_neg hneg, List.nil_append, readSigned?_toDigits h]
    congr 1
    omega

/-- A text that starts with no dollar sign is left alone. -/
theorem dropDollar_of_not_mem {cs : List Char} (h : '$' ∉ cs) : dropDollar cs = cs := by
  unfold dropDollar
  split
  · exact absurd List.mem_cons_self h
  · rfl

/-- The text of a number is read back as the number of a field. -/
theorem decimal?_decimal {n : Int} (h : IsWritable n) : decimal? (decimal n) = some n := by
  rw [decimal?, decimal, String.toList_ofList,
    Text.trim_eq_self_of_forall fun c hc => isBlank_of_mem_write hc]
  exact read?_write fun _ => h

/-- The hexadecimal text of a number is read back as the number of a field. -/
theorem hex?_hex (n : Int) : hex? (hex n) = some n := by
  have hdollar : '$' ∉ write .hexadecimal n := fun h =>
    of_mem_write (P := fun c => c ≠ '$') (by decide) (by decide) h rfl
  rw [hex?, hex, String.toList_ofList,
    Text.trim_eq_self_of_forall fun c hc => isBlank_of_mem_write hc,
    dropDollar_of_not_mem hdollar]
  exact read?_write fun h => absurd h (by decide)

/-- A written number holds no plus sign. -/
theorem plus_not_mem_decimal (n : Int) : '+' ∉ (decimal n).toList := by
  rw [decimal, String.toList_ofList]
  exact fun h => of_mem_write (P := fun c => c ≠ '+') (by decide) (by decide) h rfl

/-- A blank text is no number. -/
theorem decimal?_of_all_isBlank {text : String} (h : text.toList.all Text.isBlank = true) :
    decimal? text = none := by
  have hdrop : text.toList.dropWhile Text.isBlank = [] := by
    rw [List.dropWhile_eq_nil_iff]
    exact List.all_eq_true.1 h
  rw [decimal?, Text.trim, hdrop]
  rfl

end Numeral
end DebugLabels
