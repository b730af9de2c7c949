import DebugLabels.Proofs.WrittenNumber
import DebugLabels.Settings.Basic

/-!
# The spellings of a number

A natural number may be spelled with zeros in front and with its letters in either case
(`Numeral.IsSpelling`).  The written digits are one spelling of many, and all are read as the number
(`magnitude?_of_isSpelling`): a digit has its value in either case, and zeros in front add nothing
(`ofDigits_replicate_append`).

A spelling holds no blank, sign, prefix or dollar sign.  So what stands in front of it is told apart
from it, whichever letters it starts with: fields and base offsets take a prefix off in ways of
their own, and agree on what is left.  The main statement is `spellings_areRead`.
-/

namespace DebugLabels

/-- The text with any blanks around it. -/
def Text.IsPadded (cs padded : List Char) : Prop :=
  ∃ before after, (∀ c ∈ before, isBlank c = true) ∧ (∀ c ∈ after, isBlank c = true) ∧
    padded = before ++ cs ++ after

theorem Text.IsPadded.trim_eq {cs padded : List Char} (hpadded : IsPadded cs padded)
    (h : ∀ c ∈ cs, isBlank c = false) : trim isBlank padded = cs := by
  obtain ⟨before, after, hbefore, hafter, rfl⟩ := hpadded
  exact trim_append hbefore hafter h

theorem Text.isPadded_self (cs : List Char) : IsPadded cs cs :=
  ⟨[], [], by simp, by simp, by simp⟩

open Text (IsPadded)

namespace Numeral

variable {radix : Radix} {c : Char} {cs : List Char} {n : Nat}

/-- The character is the digit, in either case. -/
def IsEitherCase (c digit : Char) : Prop := c = digit ∨ c = digit.toUpper

/-- **The spellings of a number**: its digits, each in either case, after any number of zeros. -/
def IsSpelling (radix : Radix) (n : Nat) (cs : List Char) : Prop :=
  ∃ zeros, List.Forall₂ IsEitherCase cs (List.replicate zeros '0' ++ Nat.toDigits radix.base n)

/-- A number is spelled as it is written. -/
theorem isSpelling_toDigits (radix : Radix) (n : Nat) :
    IsSpelling radix n (Nat.toDigits radix.base n) :=
  ⟨0, List.forall₂_same.2 fun _ _ => Or.inl rfl⟩

/-! ### Digits -/

/-- A digit has its value in either case. -/
theorem digit?_of_isEitherCase {d : Nat} (h : IsEitherCase c (Nat.digitChar d))
    (hd : d < radix.base) : radix.digit? c = some d := by
  rcases h with rfl | rfl
  · exact radix.digit?_digitChar hd
  · cases radix with
    | decimal =>
      have all : ∀ d : Fin 10,
          Radix.decimal.digit? (Nat.digitChar d).toUpper = some d.val := by decide
      exact all ⟨d, hd⟩
    | hexadecimal =>
      have all : ∀ d : Fin 16,
          Radix.hexadecimal.digit? (Nat.digitChar d).toUpper = some d.val := by decide
      exact all ⟨d, hd⟩

/-- Zeros in front add nothing. -/
theorem ofDigits_replicate_append (base zeros : Nat) (ds : List Nat) :
    ofDigits base (List.replicate zeros 0 ++ ds) = ofDigits base ds := by
  induction zeros with
  | zero => rfl
  | succ zeros ih =>
    rw [List.replicate_succ, List.cons_append, ← ih]
    simp [ofDigits]

/-- A spelling is made of digits in either case that stand for the number. -/
theorem IsSpelling.exists_digits (h : IsSpelling radix n cs) :
    ∃ ds, List.Forall₂ (fun c d => d < radix.base ∧ IsEitherCase c (Nat.digitChar d)) cs ds ∧
      ofDigits radix.base ds = n := by
  obtain ⟨zeros, hcs⟩ := h
  obtain ⟨ds, hds, hlt, hvalue⟩ := Numeral.exists_digits radix.one_lt_base n
  have hzeros : List.replicate zeros '0' = (List.replicate zeros 0).map Nat.digitChar := by
    rw [List.map_replicate]
    rfl
  rw [hds, hzeros, ← List.map_append, List.forall₂_map_right_iff] at hcs
  have hall : ∀ d ∈ List.replicate zeros 0 ++ ds, d < radix.base := by
    intro d hd
    rcases List.mem_append.1 hd with hd | hd
    · rw [List.eq_of_mem_replicate hd]
      exact Nat.lt_trans Nat.zero_lt_one radix.one_lt_base
    · exact hlt d hd
  refine ⟨_, ?_, (ofDigits_replicate_append radix.base zeros ds).trans hvalue⟩
  exact ((List.forall₂_and_left _ _).2 ⟨hall, hcs.flip⟩).flip

/-- What holds of the digits in either case holds of every character of a spelling. -/
theorem IsSpelling.of_mem {P : Char → Prop} (h : IsSpelling radix n cs)
    (hdigit : ∀ d : Fin 16, P (Nat.digitChar d) ∧ P (Nat.digitChar d).toUpper) (hc : c ∈ cs) :
    P c := by
  obtain ⟨ds, hds, -⟩ := h.exists_digits
  clear h
  induction hds with
  | nil => cases hc
  | @cons c' d _ _ hd _ ih =>
    rcases List.mem_cons.1 hc with rfl | hc
    · obtain ⟨hd, hcase⟩ := hd
      have hplain := hdigit ⟨d, Nat.lt_of_lt_of_le hd radix.base_le⟩
      rcases hcase with rfl | rfl
      · exact hplain.1
      · exact hplain.2
    · exact ih hc

/-- And with a sign in front, if it holds of the sign. -/
theorem IsSpelling.of_mem_sign_append {P : Char → Prop} {n : Int}
    (h : IsSpelling radix n.natAbs cs) (hsign : P '-')
    (hdigit : ∀ d : Fin 16, P (Nat.digitChar d) ∧ P (Nat.digitChar d).toUpper)
    (hc : c ∈ sign n ++ cs) : P c :=
  (List.mem_append.1 hc).elim (of_mem_sign hsign) (h.of_mem hdigit)

theorem IsSpelling.ne_nil (h : IsSpelling radix n cs) : cs ≠ [] := by
  rintro rfl
  obtain ⟨zeros, hcs⟩ := h
  rw [List.forall₂_nil_left_iff, List.append_eq_nil_iff] at hcs
  exact Nat.toDigits_ne_nil hcs.2

/-- A spelling holds no blank. -/
theorem IsSpelling.isBlank_of_mem (h : IsSpelling radix n cs) (hc : c ∈ cs) :
    Text.isBlank c = false :=
  h.of_mem (P := fun c => Text.isBlank c = false) (by decide) hc

theorem IsSpelling.isBlank_of_mem_sign_append {n : Int} (h : IsSpelling radix n.natAbs cs)
    (hc : c ∈ sign n ++ cs) : Text.isBlank c = false :=
  h.of_mem_sign_append (P := fun c => Text.isBlank c = false) (by decide) (by decide) hc

/-- Nor does it hold what has a meaning in front of a number. -/
theorem IsSpelling.isPlain_of_mem (h : IsSpelling radix n cs) (hc : c ∈ cs) :
    c ∉ ['-', '+', '$', 'x', 'X', '_'] :=
  h.of_mem (P := fun c => c ∉ ['-', '+', '$', 'x', 'X', '_']) (by decide) hc

/-! ### Numbers -/

/-- **Every spelling of a number is read as the number**, in decimal if it is not too long. -/
theorem magnitude?_of_isSpelling (h : IsSpelling radix n cs)
    (hlimit : radix = .decimal → cs.length ≤ digitLimit) : magnitude? radix cs = some n := by
  obtain ⟨ds, hds, hvalue⟩ := h.exists_digits
  have hread := hds.imp fun _ _ hd => digit?_of_isEitherCase hd.2 hd.1
  rw [magnitude?_of_forall₂ h.ne_nil hread hlimit, hvalue]

theorem dropPrefix_of_isSpelling (h : IsSpelling radix n cs) : dropPrefix radix cs = cs := by
  refine dropPrefix_of_forall fun c hc => ⟨?_, ?_⟩ <;> rintro rfl
  · exact absurd (h.isPlain_of_mem hc) (by decide)
  · exact absurd (h.isPlain_of_mem hc) (by decide)

/-- The prefix comes off, whatever the spelling starts with. -/
theorem dropPrefix_zero_cons (h : IsSpelling .hexadecimal n cs) (hx : c = 'x' ∨ c = 'X') :
    dropPrefix .hexadecimal ('0' :: c :: cs) = cs := by
  have hzero : Text.decimalDigit? '0' = some 0 := by decide
  simp only [dropPrefix, hzero, hx, and_self, if_true]
  split
  · exact absurd (h.isPlain_of_mem List.mem_cons_self) (by decide)
  · rfl

/-- The numeral has the sign of a number and spells its magnitude. -/
theorem readSigned?_sign_append {n : Int} (h : IsSpelling radix n.natAbs cs)
    (hlimit : radix = .decimal → cs.length ≤ digitLimit) :
    readSigned? radix (sign n ++ cs) = some n := by
  unfold sign
  split
  · rw [List.singleton_append, readSigned?, dropPrefix_of_isSpelling h,
      magnitude?_of_isSpelling h hlimit, Option.map_some]
    congr 1
    omega
  · have hhead : ∀ c ∈ cs.head?, c ≠ '-' ∧ c ≠ '+' := by
      intro c hc
      constructor <;> rintro rfl <;>
        exact absurd (h.isPlain_of_mem (List.mem_of_mem_head? hc)) (by decide)
    rw [List.nil_append, readSigned?_of_forall hhead, dropPrefix_of_isSpelling h,
      magnitude?_of_isSpelling h hlimit, Option.map_some]
    congr 1
    omega

theorem read?_sign_append {n : Int} (h : IsSpelling radix n.natAbs cs)
    (hlimit : radix = .decimal → cs.length ≤ digitLimit) :
    read? radix (sign n ++ cs) = some n := by
  rw [read?_of_forall fun _ => h.isBlank_of_mem_sign_append, readSigned?_sign_append h hlimit]

/-- A natural number needs no sign. -/
theorem sign_natCast (n : Nat) : sign n = [] := if_neg (by omega)

theorem read?_of_isSpelling (h : IsSpelling radix n cs)
    (hlimit : radix = .decimal → cs.length ≤ digitLimit) : read? radix cs = some (n : Int) := by
  have hread := read?_sign_append (n := (n : Int)) h hlimit
  rwa [sign_natCast] at hread

theorem read?_zero_cons (h : IsSpelling .hexadecimal n cs) (hx : c = 'x' ∨ c = 'X') :
    read? .hexadecimal ('0' :: c :: cs) = some (n : Int) := by
  have hblank : ∀ d ∈ '0' :: c :: cs, Text.isBlank d = false := by
    rw [List.forall_mem_cons, List.forall_mem_cons]
    refine ⟨by decide, ?_, fun _ => h.isBlank_of_mem⟩
    rcases hx with rfl | rfl <;> decide
  rw [read?_of_forall hblank, readSigned?_of_forall (by simp), dropPrefix_zero_cons h hx,
    magnitude?_of_isSpelling h (by simp), Option.map_some]

/-! ### Fields and base offsets -/

/-- What stands in front of a hexadecimal number to tell it from a decimal one. -/
def hexLeads : List (List Char) := [['0', 'x'], ['0', 'X'], ['$']]

theorem isBlank_of_mem_hexLead {lead : List Char} (hlead : lead ∈ hexLeads) (hc : c ∈ lead) :
    Text.isBlank c = false := by
  have hall : (hexLeads.all fun lead => lead.all fun c => !Text.isBlank c) = true := by decide
  simp only [List.all_eq_true, Bool.not_eq_true'] at hall
  exact hall lead hlead c hc

/-- With it, a spelling holds no blank either. -/
theorem IsSpelling.isBlank_of_mem_lead_append {lead : List Char} (hlead : lead ∈ hexLeads)
    (h : IsSpelling radix n cs) (hc : c ∈ lead ++ cs) : Text.isBlank c = false := by
  rcases List.mem_append.1 hc with hc | hc
  · exact isBlank_of_mem_hexLead hlead hc
  · exact h.isBlank_of_mem hc

/-- **A field reads every spelling** of a hexadecimal number, with its sign. -/
theorem hex?_sign_append {n : Int} (h : IsSpelling .hexadecimal n.natAbs cs) {text : String}
    (htext : IsPadded (sign n ++ cs) text.toList) : hex? text = some n := by
  have hdollar : '$' ∉ sign n ++ cs := fun hc =>
    h.of_mem_sign_append (P := fun c => c ≠ '$') (by decide) (by decide) hc rfl
  rw [hex?, htext.trim_eq fun _ => h.isBlank_of_mem_sign_append, dropDollar_of_not_mem hdollar,
    read?_sign_append h (by simp)]

/-- It also reads what starts with a prefix or a dollar sign. -/
theorem hex?_lead_append (h : IsSpelling .hexadecimal n cs) {lead : List Char}
    (hlead : lead ∈ hexLeads) {text : String} (htext : IsPadded (lead ++ cs) text.toList) :
    hex? text = some (n : Int) := by
  rw [hex?, htext.trim_eq fun _ => h.isBlank_of_mem_lead_append hlead]
  simp only [hexLeads, List.mem_cons, List.not_mem_nil, or_false] at hlead
  rcases hlead with rfl | rfl | rfl
  · exact read?_zero_cons h (Or.inl rfl)
  · exact read?_zero_cons h (Or.inr rfl)
  · exact read?_of_isSpelling h (by simp)

/-- So does a base offset. -/
theorem number?_lead_append (h : IsSpelling .hexadecimal n cs) {lead : List Char}
    (hlead : lead ∈ hexLeads) {text : String} (htext : IsPadded (lead ++ cs) text.toList) :
    BaseOffset.number? text = some (n : Int) := by
  rw [BaseOffset.number?, htext.trim_eq fun _ => h.isBlank_of_mem_lead_append hlead]
  simp only [hexLeads, List.mem_cons, List.not_mem_nil, or_false] at hlead
  rcases hlead with rfl | rfl | rfl <;> exact read?_of_isSpelling h (by simp)

/-- **A field reads every spelling of a decimal number** that is not too long, with its sign. -/
theorem decimal?_sign_append {n : Int} (h : IsSpelling .decimal n.natAbs cs)
    (hlimit : cs.length ≤ digitLimit) {text : String}
    (htext : IsPadded (sign n ++ cs) text.toList) : decimal? text = some n := by
  rw [decimal?, htext.trim_eq fun _ => h.isBlank_of_mem_sign_append,
    read?_sign_append h fun _ => hlimit]

/-- So does a base offset: nothing makes a decimal number look like a hexadecimal one. -/
theorem number?_of_isSpelling (h : IsSpelling .decimal n cs) (hlimit : cs.length ≤ digitLimit)
    {text : String} (htext : IsPadded cs text.toList) :
    BaseOffset.number? text = some (n : Int) := by
  rw [BaseOffset.number?, htext.trim_eq fun _ => h.isBlank_of_mem]
  split
  · exact absurd (h.isPlain_of_mem List.mem_cons_self) (by decide)
  · exact absurd (h.isPlain_of_mem (List.mem_cons_of_mem _ List.mem_cons_self)) (by decide)
  · exact absurd (h.isPlain_of_mem (List.mem_cons_of_mem _ List.mem_cons_self)) (by decide)
  · exact read?_of_isSpelling h fun _ => hlimit

/-- A natural number is a base offset. -/
theorem ofText_of_number? {text : String} (h : BaseOffset.number? text = some (n : Int)) :
    BaseOffset.ofText text = .ok n := by
  rw [BaseOffset.ofText, h]
  exact if_neg (by omega)

/-- **All spellings of a number are read alike**, with any blanks around them.

* The hexadecimal text of an integer is read as the integer.
* A spelling of a natural number in hexadecimal is read as the number, also after `0x`, `0X` or `$`;
  with one of these in front it is the same base offset.
* The decimal text of an integer that can be written is read as the integer, and as the base offset
  if it is not negative. -/
theorem spellings_areRead :
    (∀ (n : Int) (text : String), IsPadded (hex n).toList text.toList → hex? text = some n) ∧
    (∀ (n : Nat) (cs : List Char), IsSpelling .hexadecimal n cs → ∀ text : String,
      (IsPadded cs text.toList → hex? text = some (n : Int)) ∧
      ∀ lead ∈ hexLeads, IsPadded (lead ++ cs) text.toList →
        hex? text = some (n : Int) ∧ BaseOffset.ofText text = .ok n) ∧
    ∀ n : Int, IsWritable n → ∀ text : String, IsPadded (decimal n).toList text.toList →
      decimal? text = some n ∧ (0 ≤ n → BaseOffset.ofText text = .ok n.toNat) := by
  refine ⟨fun n text htext => ?_, fun n cs h text => ⟨fun htext => ?_, fun lead hlead htext => ?_⟩,
    fun n hwritable text htext => ?_⟩
  · rw [hex, String.toList_ofList] at htext
    exact hex?_sign_append (isSpelling_toDigits _ _) htext
  · exact hex?_sign_append (n := (n : Int)) h (by rwa [sign_natCast])
  · exact ⟨hex?_lead_append h hlead htext, ofText_of_number? (number?_lead_append h hlead htext)⟩
  · rw [decimal, String.toList_ofList] at htext
    have hspelling := isSpelling_toDigits .decimal n.natAbs
    have hlimit := length_toDigits_le_digitLimit hwritable
    refine ⟨decimal?_sign_append hspelling hlimit htext, fun hnonneg => ?_⟩
    obtain ⟨m, rfl⟩ := Int.eq_ofNat_of_zero_le hnonneg
    rw [write, sign_natCast] at htext
    exact ofText_of_number? (number?_of_isSpelling hspelling hlimit htext)

/-- A number whose digits look like those of another radix, in both cases and after zeros, and a
negative and a natural number as they are written. -/
theorem spellings_areRead_zeros :
    IsSpelling .hexadecimal 0xB1E ['0', '0', 'b', '1', 'E'] ∧
      (hex? " $00b1E\t" = some 0xB1E ∧ BaseOffset.ofText " $00b1E\t" = .ok 0xB1E) ∧
      hex? "-e0 " = some (-0xE0) ∧
      IsWritable 16 ∧ decimal? "\t16" = some 16 ∧ BaseOffset.ofText "\t16" = .ok 16 := by
  have hspelling : IsSpelling .hexadecimal 0xB1E ['0', '0', 'b', '1', 'E'] :=
    ⟨2, .cons (.inl rfl) <| .cons (.inl rfl) <| .cons (.inl rfl) <| .cons (.inl rfl) <|
      .cons (.inr rfl) .nil⟩
  have hspace : ∀ c ∈ [' '], Text.isBlank c = true := by simp [Text.isBlank]
  have htab : ∀ c ∈ ['\t'], Text.isBlank c = true := by simp [Text.isBlank]
  have hwritable : IsWritable 16 := @isWritable_of_decimal? "16" 16 rfl
  obtain ⟨hwritten, hspelled, hdecimal⟩ := spellings_areRead
  have hsixteen := hdecimal 16 hwritable "\t16" ⟨['\t'], [], htab, by simp, rfl⟩
  exact ⟨hspelling,
    (hspelled _ _ hspelling " $00b1E\t").2 ['$'] (by decide) ⟨[' '], ['\t'], hspace, htab, rfl⟩,
    hwritten (-0xE0) "-e0 " ⟨[], [' '], by simp, hspace, rfl⟩,
    hwritable, hsixteen.1, hsixteen.2 (by decide)⟩

end Numeral
end DebugLabels
