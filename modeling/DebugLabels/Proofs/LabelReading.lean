import DebugLabels.Proofs.LineFormat

/-!
# The line of a label is read back

    <tag>:<address>[-<last address>]:<name>[:<comment>]

A line is read by cutting it at its first three colons (`Label.ofLine?`).  A tag and an address hold
no colon, so if the name holds none either, these are the colons that were written; what follows
the third one is the comment, colons and all.

In an address the hyphen is a sign as well as what stands before the last address.  A sign comes
before the first digit and the other hyphen after it (`cutRange_address`), so addresses below zero
are read back too.

The main statement is `line_readsBack`: what is read is the label, but for its symbol and for the
difference between no name and an empty one, and so two labels with one line are the same so far.
-/

namespace DebugLabels
namespace Label

open Numeral

/-- An address, cut at the hyphen that follows its first digits. -/
def cutRange (address : List Char) : List Char × Option (List Char) :=
  let (digits, last) := Text.cut '-' (address.dropWhile (· ∉ hexDigits))
  (address.takeWhile (· ∉ hexDigits) ++ digits, last)

/-- The label that a line shows, without its symbol. An empty name is none. -/
def ofLine? (line : String) : Option Label := do
  let (tag, rest) := Text.cut ':' line.toList
  let (address, rest) := Text.cut ':' (← rest)
  let (name, comment) := Text.cut ':' (← rest)
  let (first, last) := cutRange address
  let region ← Region.ofTag? (String.ofList tag)
  let value ← Numeral.hex? (String.ofList first)
  let last ← last.mapM fun last => Numeral.hex? (String.ofList last)
  return {
    region
    value
    name := nonEmpty? (some (String.ofList name))
    last
    comment := comment.map String.ofList
    symbolId := none }

/-- The name, if there is one, holds no colon. -/
def HasPlainName (label : Label) : Prop := ∀ name, label.name = some name → ':' ∉ name.toList

variable {label other : Label}

/-! ### Addresses -/

/-- The digits of a written number come after its sign. -/
theorem sign_before_digits (n : Int) (rest : List Char) :
    (write .hexadecimal n ++ rest).takeWhile (· ∉ hexDigits) = sign n ∧
      (write .hexadecimal n ++ rest).dropWhile (· ∉ hexDigits) =
        Nat.toDigits 16 n.natAbs ++ rest := by
  have hsign : ∀ c ∈ sign n, decide (c ∉ hexDigits) = true := by
    unfold sign
    split
    · rw [List.forall_mem_singleton]
      decide
    · exact fun c hc => absurd hc List.not_mem_nil
  obtain ⟨c, cs, hdigits⟩ := List.exists_cons_of_ne_nil (isPlain_toDigits n.natAbs).ne_nil
  have hc : c ∈ hexDigits :=
    (isPlain_toDigits n.natAbs).digits c (hdigits ▸ List.mem_cons_self)
  have hwrite : write .hexadecimal n ++ rest = sign n ++ (c :: cs ++ rest) := by
    rw [← hdigits, ← List.append_assoc]
    rfl
  rw [hwrite, hdigits, List.takeWhile_append_of_pos hsign, List.dropWhile_append_of_pos hsign,
    List.cons_append, List.takeWhile_cons_of_neg (by simpa using hc),
    List.dropWhile_cons_of_neg (by simpa using hc), List.append_nil]
  exact ⟨rfl, rfl⟩

/-- **The hyphen after the first digits is the one before the last address**, whatever the signs. -/
theorem cutRange_address (label : Label) :
    cutRange label.address.toList =
      (write .hexadecimal label.value, label.last.map (write .hexadecimal)) := by
  have hdigits : '-' ∉ Nat.toDigits 16 label.value.natAbs := fun h =>
    absurd ((isPlain_toDigits _).digits '-' h) (by decide)
  unfold address cutRange
  cases label.last with
  | none =>
    obtain ⟨htake, hdrop⟩ := sign_before_digits label.value []
    rw [List.append_nil] at htake hdrop
    rw [hex, String.toList_ofList, htake, hdrop, List.append_nil, Text.cut_of_not_mem hdigits]
    rfl
  | some last =>
    obtain ⟨htake, hdrop⟩ := sign_before_digits label.value ('-' :: write .hexadecimal last)
    have hrange : (hex label.value ++ "-" ++ hex last).toList =
        write .hexadecimal label.value ++ '-' :: write .hexadecimal last := by
      simp [hex, String.toList_append]
    dsimp only
    rw [hrange, htake, hdrop, Text.cut_append hdigits]
    rfl

theorem colon_not_mem_address (label : Label) : ':' ∉ label.address.toList := by
  have hhex : ∀ n, ':' ∉ (hex n).toList := fun n h => by
    rw [hex, String.toList_ofList] at h
    exact of_mem_write (P := fun c => c ≠ ':') (by decide) (by decide) h rfl
  unfold address
  cases label.last with
  | none => exact hhex _
  | some last => simp [String.toList_append, hhex]

theorem colon_not_mem_tag (region : Region) : ':' ∉ region.tag.toList := by
  cases region <;> decide

theorem ofTag?_tag (region : Region) : Region.ofTag? region.tag = some region := by
  cases region <;> rfl

/-! ### Lines -/

/-- The parts of a line, one after the other. -/
theorem toList_line (label : Label) :
    label.line.toList = label.region.tag.toList ++ ':' :: (label.address.toList ++
      ':' :: ((label.name.getD "").toList ++ label.ending.toList)) := by
  simp [line, String.toList_append]

/-- What follows the name is the comment. -/
theorem cut_ending (h : label.HasPlainName) :
    Text.cut ':' ((label.name.getD "").toList ++ label.ending.toList) =
      ((label.name.getD "").toList, label.comment.map String.toList) := by
  have hname : ':' ∉ (label.name.getD "").toList := by
    cases hname : label.name with
    | none => simp
    | some name => exact h name hname
  unfold ending
  cases label.comment with
  | none => simp [Text.cut_of_not_mem hname]
  | some comment => simp [String.toList_append, Text.cut_append hname]

/-- **A line is read as the label that it was written for**, but for the symbol. -/
theorem ofLine?_line (h : label.HasPlainName) :
    ofLine? label.line = some { label with name := nonEmpty? label.name, symbolId := none } := by
  have hvalue : ∀ n, hex? (String.ofList (write .hexadecimal n)) = some n := hex?_hex
  have hname : nonEmpty? (some (label.name.getD "")) = nonEmpty? label.name := by
    cases label.name <;> rfl
  unfold ofLine?
  rw [toList_line, Text.cut_append (colon_not_mem_tag _)]
  simp only [Option.bind_eq_bind, Option.bind_some, Text.cut_append (colon_not_mem_address label),
    cut_ending h, cutRange_address, String.ofList_toList, ofTag?_tag, hvalue, hname]
  cases label.last <;> cases label.comment <;> simp [hvalue]

/-- **The line of a label is read back.**  Its parts are those between the first three colons, and
its addresses are told apart by the hyphen after the first digits.  So two labels have one line
exactly if they agree in all but their symbols, and no name counts as an empty one. -/
theorem line_readsBack (h : label.HasPlainName) :
    ofLine? label.line = some { label with name := nonEmpty? label.name, symbolId := none } ∧
      ∀ other : Label, other.HasPlainName →
        (label.line = other.line ↔
          label.region = other.region ∧ label.value = other.value ∧ label.last = other.last ∧
            label.comment = other.comment ∧ label.name.getD "" = other.name.getD "") := by
  refine ⟨ofLine?_line h, fun other hother => ⟨fun hline => ?_, ?_⟩⟩
  · have hread := congrArg ofLine? hline
    rw [ofLine?_line h, ofLine?_line hother, Option.some.injEq, Label.mk.injEq] at hread
    obtain ⟨hregion, hvalue, hname, hlast, hcomment, -⟩ := hread
    refine ⟨hregion, hvalue, hlast, hcomment, ?_⟩
    rw [← Store.getD_nonEmpty? label.name, hname, Store.getD_nonEmpty?]
  · rintro ⟨hregion, hvalue, hlast, hcomment, hname⟩
    simp only [line, address, ending, hregion, hvalue, hlast, hcomment, hname]

/-- A range below zero without a name, with a comment that looks like a line. -/
def unnamedRange : Label := ⟨.internalRam, -16, none, some (-14), some "P:1-2:x", some 0⟩

/-- Its line is read back, and it is the line of the label with an empty name as well. -/
theorem line_readsBack_unnamedRange :
    unnamedRange.HasPlainName ∧ { unnamedRange with name := some "" }.HasPlainName ∧
      ofLine? "R:-10--e::P:1-2:x" = some { unnamedRange with symbolId := none } ∧
      unnamedRange.line = { unnamedRange with name := some "" }.line := by
  have hnone : unnamedRange.HasPlainName := fun name hname => by simp [unnamedRange] at hname
  have hempty : { unnamedRange with name := some "" }.HasPlainName := fun name hname => by
    obtain rfl := Option.some.inj hname
    simp
  obtain ⟨hread, hsame⟩ := line_readsBack hnone
  exact ⟨hnone, hempty, hread, (hsame _ hempty).2 ⟨rfl, rfl, rfl, rfl, rfl⟩⟩

end Label
end DebugLabels
