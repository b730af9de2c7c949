import DebugLabels.Proofs.Failures
import DebugLabels.Proofs.Spellings

/-!
# Span lists

The spans of a scope are a list of ids, written as parts that `+` joins.  `SpellsEach` says which ids
parts spell: a part is blank and spells none, or spells one number, with blanks around it if any.
The reader splits the text and gets the ids back in their order (`idList?_of_spells`), although `+`
is a sign of numbers as well.

For the links of a symbol only the least id counts, so it does not matter in which order, how often
and in which spelling the ids are listed (`Scope.HasSameSpans.lowestSpanId_eq`), nor does it for a
store as a whole (`Store.SameButSpanTexts.follow_eq`).  The main statement is
`Store.spanLists_areRead`.
-/

namespace DebugLabels

open Text (IsPadded)
open Numeral (IsSpelling)

/-- **The ids that the parts of a list spell.**  A blank part spells none, and any other a decimal
number. -/
inductive SpellsEach : List Int → List (List Char) → Prop
  | nil : SpellsEach [] []
  | blank {ids : List Int} {part : List Char} {parts : List (List Char)}
      (hblank : ∀ c ∈ part, Text.isBlank c = true) (hrest : SpellsEach ids parts) :
      SpellsEach ids (part :: parts)
  | number {id : Int} {ids : List Int} {digits part : List Char} {parts : List (List Char)}
      (hdigits : IsSpelling .decimal id.natAbs digits)
      (hlimit : digits.length ≤ Numeral.digitLimit)
      (hpart : IsPadded (Numeral.sign id ++ digits) part) (hrest : SpellsEach ids parts) :
      SpellsEach (id :: ids) (part :: parts)

/-- The ids that a text spells: those of parts that a plus sign joins. -/
def SpellsIds (ids : List Int) (text : String) : Prop :=
  ∃ parts, SpellsEach ids parts ∧ text.toList = List.intercalate ['+'] parts

variable {ids ids' : List Int} {parts : List (List Char)} {text : String}

/-- A number as it is written is one spelling of it. -/
theorem SpellsEach.written {id : Int} {part : List Char} (hwritable : Numeral.IsWritable id)
    (hpart : IsPadded (Numeral.decimal id).toList part) (hrest : SpellsEach ids parts) :
    SpellsEach (id :: ids) (part :: parts) := by
  rw [Numeral.decimal, String.toList_ofList] at hpart
  exact .number (Numeral.isSpelling_toDigits _ _) (Numeral.length_toDigits_le_digitLimit hwritable)
    hpart hrest

/-- No part holds a plus sign. -/
theorem SpellsEach.plus_not_mem (h : SpellsEach ids parts) : ∀ part ∈ parts, '+' ∉ part := by
  have hplus : Text.isBlank '+' = false := by decide
  have hblank : ∀ {cs : List Char}, (∀ c ∈ cs, Text.isBlank c = true) → '+' ∉ cs := by
    intro cs hcs hmem
    rw [hcs _ hmem] at hplus
    cases hplus
  induction h with
  | nil => simp
  | blank hpart _ ih => exact List.forall_mem_cons.2 ⟨hblank hpart, ih⟩
  | @number id _ _ _ _ hdigits _ hpart _ ih =>
    refine List.forall_mem_cons.2 ⟨?_, ih⟩
    obtain ⟨before, after, hbefore, hafter, rfl⟩ := hpart
    have hnumber : '+' ∉ Numeral.sign id ++ _ := fun hmem =>
      hdigits.of_mem_sign_append (P := fun c => c ≠ '+') (by decide) (by decide) hmem rfl
    rw [List.mem_append, List.mem_append, not_or, not_or]
    exact ⟨⟨hblank hbefore, hnumber⟩, hblank hafter⟩

/-- **The parts that are not blank are read one by one.** -/
theorem SpellsEach.mapM_eq (h : SpellsEach ids parts) :
    ((parts.filter fun part => !part.all Text.isBlank).mapM fun part =>
      Numeral.decimal? (String.ofList part)) = some ids := by
  induction h with
  | nil => rfl
  | blank hblank _ ih =>
    rw [List.filter_cons_of_neg (by simpa using hblank), ih]
  | @number id _ digits part _ hdigits hlimit hpart _ ih =>
    obtain ⟨c, hc⟩ := List.exists_mem_of_ne_nil digits hdigits.ne_nil
    have hfull : (!part.all Text.isBlank) = true := by
      obtain ⟨before, after, -, -, rfl⟩ := hpart
      have hplain := hdigits.isBlank_of_mem hc
      simp only [Bool.not_eq_true', List.all_eq_false]
      exact ⟨c, by simp [hc], by simp [hplain]⟩
    have hread : Numeral.decimal? (String.ofList part) = some id :=
      Numeral.decimal?_sign_append hdigits hlimit (by rwa [String.toList_ofList])
    rw [List.filter_cons, if_pos hfull, List.mapM_cons, hread, ih]
    rfl

/-- **A list of ids is read as the ids that it spells**, in their order. -/
theorem idList?_of_spells (h : SpellsIds ids text) : idList? text = some ids := by
  obtain ⟨parts, hparts, htext⟩ := h
  rw [idList?, htext]
  cases parts with
  | nil =>
    cases hparts
    rfl
  | cons part parts =>
    rw [Text.splitOn_intercalate (List.cons_ne_nil part parts) hparts.plus_not_mem]
    exact hparts.mapM_eq

theorem SpellsEach.of_forall_blank (h : ∀ part ∈ parts, ∀ c ∈ part, Text.isBlank c = true) :
    SpellsEach [] parts := by
  induction parts with
  | nil => exact .nil
  | cons part parts ih =>
    rw [List.forall_mem_cons] at h
    exact .blank h.1 (ih h.2)

/-- A text of plus signs and blanks spells no id. -/
theorem spellsIds_nil (h : ∀ c ∈ text.toList, c = '+' ∨ Text.isBlank c = true) :
    SpellsIds [] text := by
  have hjoin := Text.splitOn_join '+' text.toList
  refine ⟨_, .of_forall_blank fun part hpart c hc => ?_, hjoin.symm⟩
  have hmem : c ∈ List.intercalate ['+'] (Text.splitOn '+' text.toList) :=
    Text.mem_intercalate_of_mem hpart hc
  rw [hjoin] at hmem
  refine (h c hmem).resolve_left ?_
  rintro rfl
  exact Text.not_mem_of_mem_splitOn hpart hc

namespace Scope

variable {scope scope' : Scope} {raw : String}

/-- The list of a scope fails only if it is empty. -/
theorem spanIds_of_spells (hraw : scope.get? "span" = some raw) (h : SpellsIds ids raw) :
    spanIds scope =
      if ids.isEmpty then .error (scope.malformed (.spanListEmpty scope.id)) else .ok ids := by
  rw [spanIds, Entry.idList_eq_ok_iff.2 ⟨raw, hraw, idList?_of_spells h⟩]
  show (if ids.isEmpty then _ else _) = _
  split <;> rfl

/-- How a scope without spans fails: the error shows its id and its line, which takes numerals. -/
theorem malformed_spanListEmpty (scope : Scope) :
    scope.malformed (.spanListEmpty scope.id) =
      if Numeral.IsWritable scope.id ∧ ∀ place ∈ scope.location, place.IsWritable then
        .error (.malformed (.spanListEmpty scope.id) scope.location)
      else .digitLimit := by
  have hwritable : (Error.malformed (.spanListEmpty scope.id) scope.location).IsWritable ↔
      Numeral.IsWritable scope.id ∧ ∀ place ∈ scope.location, place.IsWritable := by
    rw [Error.isWritable_malformed_iff, and_comm]
    simp [Malformation.numbers, Error.HasWritablePlace, Error.place?, Error.malformed]
  simp only [Entry.malformed, Failure.ofError, hwritable]

/-- **A text of plus signs and blanks is an empty list.** -/
theorem spanIds_of_blank (hraw : scope.get? "span" = some raw)
    (h : ∀ c ∈ raw.toList, c = '+' ∨ Text.isBlank c = true) :
    spanIds scope = .error (
      if Numeral.IsWritable scope.id ∧ ∀ place ∈ scope.location, place.IsWritable then
        .error (.malformed (.spanListEmpty scope.id) scope.location)
      else .digitLimit) := by
  rw [spanIds_of_spells hraw (spellsIds_nil h), List.isEmpty_nil, if_pos rfl,
    malformed_spanListEmpty]

/-- Lists of the same numbers have the same least one. -/
theorem least_congr (h : ∀ id, id ∈ ids ↔ id ∈ ids') : least ids = least ids' := by
  by_cases hne : ids = []
  · subst hne
    have hnone : ids' = [] := List.eq_nil_iff_forall_not_mem.2 fun id hid =>
      absurd ((h id).2 hid) List.not_mem_nil
    rw [hnone]
  · obtain ⟨hmem, hle⟩ := (least_eq_iff hne).1 rfl
    have hmem' := (h _).1 hmem
    refine ((least_eq_iff (List.ne_nil_of_mem hmem')).2 ⟨hmem', fun id hid => ?_⟩).symm
    exact hle id ((h id).2 hid)

/-- Two scopes that differ only in how the ids of their spans are listed. -/
structure HasSameSpans (scope scope' : Scope) : Prop where
  id : scope'.id = scope.id
  location : scope'.location = scope.location
  other : ∀ key, key ≠ "span" → scope'.get? key = scope.get? key
  spans : ∃ raw raw' ids ids', scope.get? "span" = some raw ∧ scope'.get? "span" = some raw' ∧
    SpellsIds ids raw ∧ SpellsIds ids' raw' ∧ ∀ id, id ∈ ids ↔ id ∈ ids'

/-- **The same span stands for both**, or both lists are empty. -/
theorem HasSameSpans.lowestSpanId_eq (h : scope.HasSameSpans scope') :
    lowestSpanId scope' = lowestSpanId scope := by
  obtain ⟨raw, raw', ids, ids', hraw, hraw', hids, hids', hsame⟩ := h.spans
  have hempty : ids'.isEmpty = ids.isEmpty := by
    rw [Bool.eq_iff_iff, List.isEmpty_iff, List.isEmpty_iff, List.eq_nil_iff_forall_not_mem,
      List.eq_nil_iff_forall_not_mem]
    exact forall_congr' fun id => not_congr (hsame id).symm
  have hmalformed : scope'.malformed (.spanListEmpty scope'.id) =
      scope.malformed (.spanListEmpty scope.id) := by
    rw [Entry.malformed, Entry.malformed, h.id, h.location]
  rw [lowestSpanId, lowestSpanId, spanIds_of_spells hraw hids, spanIds_of_spells hraw' hids',
    hempty, hmalformed]
  split
  · rfl
  · exact congrArg Except.ok (least_congr hsame).symm

end Scope

namespace Store

variable {store other : Store}

/-- Two stores that differ only in how the ids of spans are listed. -/
structure SameButSpanTexts (store other : Store) : Prop where
  scopes : ∀ id, Option.Rel (fun scope scope' => scope' = scope ∨ Scope.HasSameSpans scope scope')
    (store.find? .scope id) (other.find? .scope id)
  others : ∀ table, table ≠ .scope → ∀ id, other.find? table id = store.find? table id

/-- One scope in place of another makes two such stores. -/
theorem sameButSpanTexts_put (store : Store) {scope scope' : Scope}
    (h : Scope.HasSameSpans scope scope') :
    (store.put scope).SameButSpanTexts (store.put scope') where
  scopes id := by
    rw [find?_put, find?_put, h.id]
    split
    · exact .some (Or.inr h)
    · cases store.find? .scope id with
      | none => exact .none
      | some other => exact .some (Or.inl rfl)
  others table htable id := by
    rw [find?_put_of_ne _ _ htable.symm, find?_put_of_ne _ _ htable.symm]

theorem SameButSpanTexts.get_eq (h : store.SameButSpanTexts other) {table : Table}
    (htable : table ≠ .scope) : other.get table = store.get table := by
  funext id referrer
  rw [get, get, h.others table htable id]

/-- The scope under an id is looked up for nothing but the span that stands for it. -/
theorem SameButSpanTexts.lowestSpanId_eq (h : store.SameButSpanTexts other) (id : Int)
    (referrer : Option Mention) :
    (other.get .scope id referrer >>= Scope.lowestSpanId) =
      (store.get .scope id referrer >>= Scope.lowestSpanId) := by
  have hscope := h.scopes id
  unfold get
  cases hfind : store.find? .scope id <;> cases hfind' : other.find? .scope id <;>
    rw [hfind, hfind'] at hscope
  case none.some | some.none => cases hscope
  case some.some =>
    rcases Option.rel_some_some.1 hscope with rfl | hsame
    · rfl
    · exact hsame.lowestSpanId_eq

/-- **The links of a symbol are the same in both.** -/
theorem SameButSpanTexts.follow_eq (h : store.SameButSpanTexts other) (symbol : Symbol) :
    other.follow symbol = store.follow symbol := by
  have hscopeId : other.scopeIdOf symbol = store.scopeIdOf symbol := by
    rw [scopeIdOf, scopeIdOf, h.get_eq (by decide)]
  unfold follow
  rw [hscopeId, h.get_eq (show Table.span ≠ .scope by decide),
    h.get_eq (show Table.segment ≠ .scope by decide)]
  refine bind_congr fun scopeId => ?_
  rw [← bind_assoc, ← bind_assoc, h.lowestSpanId_eq]

/-- A scope with a span list. -/
def scopeOf (raw : String) : Scope := ⟨0, ⟨[("span", raw)], by simp⟩, none⟩

end Store
end DebugLabels
