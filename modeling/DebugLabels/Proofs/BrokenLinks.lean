import DebugLabels.Proofs.Failures

/-!
# Where following a symbol stops

`Store.follow` examines the links from a symbol to its segment one after the other, and the first
that does not hold decides how the symbol fails. `Store.Breaks` says which link that is and with
which error, by look-ups and fields alone: each of its cases presupposes that all links before it
hold, and names what is broken at its own. The links are, in order,

| link | broken if | error |
| --- | --- | --- |
| `scope` field of the symbol | unreadable | malformed record, at the symbol |
| `parent` field, if there is no `scope` | missing | unresolved scope |
| | unreadable | malformed record, at the symbol |
| parent | not stored | missing symbol |
| `scope` field of the parent | missing | unresolved scope |
| | unreadable | malformed record, at the parent |
| scope | not stored | missing scope |
| `span` list of the scope | missing, unreadable, empty | malformed record, at the scope |
| span with the least id of the list | not stored | missing span |
| `seg` field of the span | missing, unreadable | malformed record, at the span |
| segment | not stored | missing segment |
| `start` field, if there is an `ooffs` | missing, unreadable | malformed record, at the segment |
| `ooffs` field | unreadable | malformed record, at the segment |

What is broken behind the first broken link is not looked at, and a segment without `ooffs` is in no
image, whatever its `start` is (`outcome_place_afterAll`).

The words of such an error show ids, and the line of the record that is malformed. Ids of a store
can be written, so the line alone decides whether the error can be worded (`Breaks.isWritable_iff`).
-/

namespace DebugLabels

/-! ### Fields -/

namespace Entry

variable {table : Table}

/-- The field with the key is there and stands for no number. -/
def Unreadable (entry : Entry table) (radix : Radix) (key : String) (cause : Malformation) : Prop :=
  ∃ raw, entry.get? key = some raw ∧ radix.field? raw = none ∧
    cause = .numberUnreadable table entry.id key radix raw

/-- What is wrong with a field that must stand for a number. -/
inductive NumberFault (entry : Entry table) (radix : Radix) (key : String) : Malformation → Prop
  | missing (h : entry.get? key = none) :
    NumberFault entry radix key (.fieldMissing table entry.id key)
  | unreadable {cause : Malformation} (h : entry.Unreadable radix key cause) :
    NumberFault entry radix key cause

variable {entry : Entry table} {radix : Radix} {key : String} {failure : Failure}

/-- The words about an unreadable field show no number but the id of the entry. -/
theorem Unreadable.numbers_eq {cause : Malformation} (h : entry.Unreadable radix key cause) :
    cause.numbers = [entry.id] := by
  obtain ⟨raw, -, -, rfl⟩ := h
  rfl

theorem NumberFault.numbers_eq {cause : Malformation} (h : entry.NumberFault radix key cause) :
    cause.numbers = [entry.id] := by
  cases h with
  | missing => rfl
  | unreadable h => exact h.numbers_eq

theorem require_eq_ok_iff {raw : String} :
    entry.require key = .ok raw ↔ entry.get? key = some raw := by
  unfold require
  cases entry.get? key <;> simp

theorem require_eq_error_iff : entry.require key = .error failure ↔
    entry.get? key = none ∧ failure = entry.malformed (.fieldMissing table entry.id key) := by
  unfold require
  cases entry.get? key <;> simp [eq_comm]

/-- **How a number field fails**: it is missing or unreadable. -/
theorem number_eq_error_iff : entry.number radix key = .error failure ↔
    ∃ cause, entry.NumberFault radix key cause ∧ failure = entry.malformed cause := by
  simp only [number, bind_eq_error_iff, require_eq_error_iff, require_eq_ok_iff]
  constructor
  · rintro (⟨hmissing, hfailure⟩ | ⟨raw, hraw, h⟩)
    · exact ⟨_, .missing hmissing, hfailure⟩
    · split at h
      · exact absurd h pure_ne_error
      · rename_i hread
        exact ⟨_, .unreadable ⟨raw, hraw, hread, rfl⟩, throw_eq_error_iff.1 h⟩
  · rintro ⟨cause, hfault, hfailure⟩
    cases hfault with
    | missing h => exact Or.inl ⟨h, hfailure⟩
    | unreadable h =>
      obtain ⟨raw, hraw, hread, rfl⟩ := h
      refine Or.inr ⟨raw, hraw, ?_⟩
      rw [hread]
      exact throw_eq_error_iff.2 hfailure

/-- A list of ids is missing, or a part of it is no number. -/
theorem idList_eq_error_iff : entry.idList key = .error failure ↔
    entry.get? key = none ∧ failure = entry.malformed (.fieldMissing table entry.id key) ∨
      ∃ raw, entry.get? key = some raw ∧ DebugLabels.idList? raw = none ∧
        failure = entry.malformed (.idListUnreadable table entry.id key raw) := by
  simp only [idList, bind_eq_error_iff, require_eq_error_iff, require_eq_ok_iff]
  refine or_congr_right (exists_congr fun raw => and_congr_right fun _ => ?_)
  split
  · rename_i hlist
    simp [hlist, pure_ne_error]
  · rename_i hlist
    simp [hlist, throw_eq_error_iff]

/-- A field that need not be there fails only if it is there and unreadable. -/
theorem decimalIfPresent_eq_error_iff : entry.decimalIfPresent key = .error failure ↔
    ∃ cause, entry.Unreadable .decimal key cause ∧ failure = entry.malformed cause := by
  unfold decimalIfPresent
  split
  · rename_i hhas
    rw [map_eq_error_iff, number_eq_error_iff]
    refine exists_congr fun cause => and_congr_left fun _ => ⟨fun hfault => ?_, .unreadable⟩
    cases hfault with
    | missing h => simp [has_eq_false_iff.2 h] at hhas
    | unreadable h => exact h
  · rename_i hhas
    rw [Bool.not_eq_true, has_eq_false_iff] at hhas
    simp [Unreadable, hhas]

end Entry

/-- What is wrong with the span list of a scope. -/
inductive Scope.SpanListFault (scope : Scope) : Malformation → Prop
  | missing (h : scope.get? "span" = none) :
    SpanListFault scope (.fieldMissing .scope scope.id "span")
  | unreadable {raw : String} (h : scope.get? "span" = some raw) (hlist : idList? raw = none) :
    SpanListFault scope (.idListUnreadable .scope scope.id "span" raw)
  | empty {raw : String} (h : scope.get? "span" = some raw) (hlist : idList? raw = some []) :
    SpanListFault scope (.spanListEmpty scope.id)

theorem Scope.SpanListFault.numbers_eq {scope : Scope} {cause : Malformation}
    (h : SpanListFault scope cause) : cause.numbers = [scope.id] := by
  cases h <;> rfl

/-- **How a scope has no span**: its list is missing, unreadable or empty. -/
theorem Scope.lowestSpanId_eq_error_iff {scope : Scope} {failure : Failure} :
    lowestSpanId scope = .error failure ↔
      ∃ cause, SpanListFault scope cause ∧ failure = scope.malformed cause := by
  simp only [lowestSpanId, spanIds, map_eq_error_iff, bind_eq_error_iff,
    Entry.idList_eq_error_iff, Entry.idList_eq_ok_iff]
  constructor
  · rintro ((⟨hmissing, hfailure⟩ | ⟨raw, hraw, hlist, hfailure⟩) | ⟨ids, ⟨raw, hraw, hlist⟩, h⟩)
    · exact ⟨_, .missing hmissing, hfailure⟩
    · exact ⟨_, .unreadable hraw hlist, hfailure⟩
    · split at h
      · rename_i hempty
        obtain rfl := List.isEmpty_iff.1 hempty
        rcases bind_eq_error_iff.1 h with h | ⟨_, h, -⟩
        · exact ⟨_, .empty hraw hlist, throw_eq_error_iff.1 h⟩
        · exact absurd h throw_ne_ok
      · exact absurd h pure_ne_error
  · rintro ⟨cause, hfault, hfailure⟩
    cases hfault with
    | missing h => exact Or.inl (Or.inl ⟨h, hfailure⟩)
    | unreadable h hlist => exact Or.inl (Or.inr ⟨_, h, hlist, hfailure⟩)
    | empty h hlist => exact Or.inr ⟨[], ⟨_, h, hlist⟩, throw_eq_error_iff.2 hfailure⟩

/-- What is wrong with a segment that is in the image: its start is looked at before its offset. -/
inductive Segment.PlaceFault (segment : Segment) : Malformation → Prop
  | start {cause : Malformation} (himage : segment.get? "ooffs" ≠ none)
      (h : segment.NumberFault .hexadecimal "start" cause) : PlaceFault segment cause
  | offset {start : Int} {cause : Malformation} (hstart : segment.Reads .hexadecimal "start" start)
      (h : segment.Unreadable .decimal "ooffs" cause) : PlaceFault segment cause

theorem Segment.PlaceFault.numbers_eq {segment : Segment} {cause : Malformation}
    (h : PlaceFault segment cause) : cause.numbers = [segment.id] := by
  cases h with
  | start _ h => exact h.numbers_eq
  | offset _ h => exact h.numbers_eq

namespace Store

/-- What is broken on the way from a symbol to the id of its scope. -/
inductive ScopeBreaks (store : Store) (symbol : Symbol) : Error → Prop
  | scopeField {cause : Malformation} (h : symbol.Unreadable .decimal "scope" cause) :
    ScopeBreaks store symbol (.malformed cause symbol.location)
  | noScopeNoParent (hscope : symbol.get? "scope" = none) (h : symbol.get? "parent" = none) :
    ScopeBreaks store symbol (.unresolvedScope symbol.id (Symbol.name symbol) .noScopeNoParent)
  | parentField {cause : Malformation} (hscope : symbol.get? "scope" = none)
      (h : symbol.Unreadable .decimal "parent" cause) :
    ScopeBreaks store symbol (.malformed cause symbol.location)
  | parent {parentId : Int} (hscope : symbol.get? "scope" = none)
      (hparentId : symbol.Reads .decimal "parent" parentId)
      (h : store.find? .symbol parentId = none) :
    ScopeBreaks store symbol (.missing (some .symbol) parentId (some (Symbol.mention symbol)))
  | parentScopeField {parentId : Int} {parent : Symbol} {cause : Malformation}
      (hscope : symbol.get? "scope" = none) (hparentId : symbol.Reads .decimal "parent" parentId)
      (hparent : store.find? .symbol parentId = some parent)
      (h : parent.Unreadable .decimal "scope" cause) :
    ScopeBreaks store symbol (.malformed cause parent.location)
  | parentWithoutScope {parentId : Int} {parent : Symbol} (hscope : symbol.get? "scope" = none)
      (hparentId : symbol.Reads .decimal "parent" parentId)
      (hparent : store.find? .symbol parentId = some parent) (h : parent.get? "scope" = none) :
    ScopeBreaks store symbol (.unresolvedScope symbol.id (Symbol.name symbol)
      (.parentWithoutScope (Symbol.mention parent)))

/-- The links lead from a symbol to a stored scope. -/
def IsInScope (store : Store) (symbol : Symbol) (scopeId : Int) (scope : Scope) : Prop :=
  store.HasScope symbol scopeId ∧ store.find? .scope scopeId = some scope

/-- The links lead from a symbol to a stored span. -/
def IsInSpan (store : Store) (symbol : Symbol) (spanId : Int) (span : Span) : Prop :=
  ∃ scopeId scope, store.IsInScope symbol scopeId scope ∧ Scope.HasLeastSpan scope spanId ∧
    store.find? .span spanId = some span

/-- **What is broken first** on the way from a symbol to its place in the image, and the error that
says so. -/
inductive Breaks (store : Store) (symbol : Symbol) : Error → Prop
  | scopeId {e : Error} (h : store.ScopeBreaks symbol e) : Breaks store symbol e
  | scope {scopeId : Int} (hscopeId : store.HasScope symbol scopeId)
      (h : store.find? .scope scopeId = none) :
    Breaks store symbol (.missing (some .scope) scopeId (some (Symbol.mention symbol)))
  | spanList {scopeId : Int} {scope : Scope} {cause : Malformation}
      (hscope : store.IsInScope symbol scopeId scope) (h : Scope.SpanListFault scope cause) :
    Breaks store symbol (.malformed cause scope.location)
  | span {scopeId spanId : Int} {scope : Scope} (hscope : store.IsInScope symbol scopeId scope)
      (hspanId : Scope.HasLeastSpan scope spanId) (h : store.find? .span spanId = none) :
    Breaks store symbol (.missing (some .span) spanId (some (.entry .scope scopeId)))
  | segmentField {spanId : Int} {span : Span} {cause : Malformation}
      (hspan : store.IsInSpan symbol spanId span) (h : span.NumberFault .decimal "seg" cause) :
    Breaks store symbol (.malformed cause span.location)
  | segment {spanId segmentId : Int} {span : Span} (hspan : store.IsInSpan symbol spanId span)
      (hsegmentId : span.Reads .decimal "seg" segmentId)
      (h : store.find? .segment segmentId = none) :
    Breaks store symbol (.missing (some .segment) segmentId (some (.entry .span spanId)))
  | place {segmentId : Int} {segment : Segment} {cause : Malformation}
      (hsegment : store.LiesIn symbol segmentId segment) (h : Segment.PlaceFault segment cause) :
    Breaks store symbol (.malformed cause segment.location)

variable {store : Store} {symbol : Symbol} {failure : Failure}

theorem get_eq_error_iff {table : Table} {id : Int} {referrer : Option Mention} :
    store.get table id referrer = .error failure ↔
      store.find? table id = none ∧ failure = .ofError (.missing (some table) id referrer) := by
  unfold get
  cases store.find? table id <;> simp [eq_comm]

theorem scopeIdOf_eq_error_iff : store.scopeIdOf symbol = .error failure ↔
    ∃ e, store.ScopeBreaks symbol e ∧ failure = .ofError e := by
  simp only [scopeIdOf, Symbol.scopeId, Symbol.parentId, bind_eq_error_iff, Option.exists,
    Entry.decimalIfPresent_eq_error_iff, Entry.decimalIfPresent_eq_ok_none_iff,
    Entry.decimalIfPresent_eq_ok_some_iff, get_eq_error_iff, get_eq_ok_iff, throw_eq_error_iff,
    pure_ne_error, and_false, exists_false, or_false]
  constructor
  · rintro (⟨cause, h, hfailure⟩ | ⟨hscope, ⟨cause, h, hfailure⟩ | ⟨h, hfailure⟩ |
      ⟨parentId, hparentId, ⟨h, hfailure⟩ | ⟨parent, hparent, ⟨cause, h, hfailure⟩ |
      ⟨h, hfailure⟩⟩⟩⟩)
    · exact ⟨_, .scopeField h, hfailure⟩
    · exact ⟨_, .parentField hscope h, hfailure⟩
    · exact ⟨_, .noScopeNoParent hscope h, hfailure⟩
    · exact ⟨_, .parent hscope hparentId h, hfailure⟩
    · exact ⟨_, .parentScopeField hscope hparentId hparent h, hfailure⟩
    · exact ⟨_, .parentWithoutScope hscope hparentId hparent h, hfailure⟩
  · rintro ⟨e, hbreaks, hfailure⟩
    cases hbreaks with
    | scopeField h => exact Or.inl ⟨_, h, hfailure⟩
    | noScopeNoParent hscope h => exact Or.inr ⟨hscope, Or.inr (Or.inl ⟨h, hfailure⟩)⟩
    | parentField hscope h => exact Or.inr ⟨hscope, Or.inl ⟨_, h, hfailure⟩⟩
    | parent hscope hparentId h =>
      exact Or.inr ⟨hscope, Or.inr (Or.inr ⟨_, hparentId, Or.inl ⟨h, hfailure⟩⟩)⟩
    | parentScopeField hscope hparentId hparent h =>
      exact Or.inr ⟨hscope, Or.inr (Or.inr ⟨_, hparentId, Or.inr ⟨_, hparent,
        Or.inl ⟨_, h, hfailure⟩⟩⟩)⟩
    | parentWithoutScope hscope hparentId hparent h =>
      exact Or.inr ⟨hscope, Or.inr (Or.inr ⟨_, hparentId, Or.inr ⟨_, hparent,
        Or.inr ⟨h, hfailure⟩⟩⟩)⟩

theorem placeOf_eq_ok_none_iff {segment : Segment} :
    placeOf segment = .ok none ↔ segment.get? "ooffs" = none := by
  unfold placeOf Segment.isInImage
  rw [← Entry.has_eq_false_iff]
  cases segment.has "ooffs" <;> simp [bind_eq_ok_iff, map_eq_ok_iff]

theorem placeOf_eq_error_iff {segment : Segment} : placeOf segment = .error failure ↔
    ∃ cause, Segment.PlaceFault segment cause ∧ failure = segment.malformed cause := by
  unfold placeOf Segment.isInImage
  split
  · rename_i himage
    rw [← Bool.not_eq_false, Entry.has_eq_false_iff] at himage
    simp only [Segment.start, Segment.imageOffset, bind_eq_error_iff, Entry.number_eq_error_iff,
      Entry.number_eq_ok_iff_reads, pure_ne_error, and_false, exists_false, or_false]
    constructor
    · rintro (⟨cause, h, hfailure⟩ | ⟨start, hstart, cause, h, hfailure⟩)
      · exact ⟨cause, .start himage h, hfailure⟩
      · cases h with
        | missing h => exact absurd h himage
        | unreadable h => exact ⟨cause, .offset hstart h, hfailure⟩
    · rintro ⟨cause, hfault, hfailure⟩
      cases hfault with
      | start _ h => exact Or.inl ⟨cause, h, hfailure⟩
      | offset hstart h => exact Or.inr ⟨_, hstart, cause, .unreadable h, hfailure⟩
  · rename_i himage
    rw [Bool.not_eq_true, Entry.has_eq_false_iff] at himage
    refine iff_of_false (by simp) ?_
    rintro ⟨cause, hfault, -⟩
    cases hfault with
    | start h _ => exact h himage
    | offset _ h => simp [Entry.Unreadable, himage] at h

/-- **Following the links fails exactly with what is broken first.** -/
theorem follow_eq_error_iff : store.follow symbol = .error failure ↔
    ∃ e, store.Breaks symbol e ∧ failure = .ofError e := by
  simp only [follow, bind_eq_error_iff, scopeIdOf_eq_error_iff, scopeIdOf_eq_ok_iff,
    get_eq_error_iff, get_eq_ok_iff, Scope.lowestSpanId_eq_error_iff, Scope.lowestSpanId_eq_ok_iff,
    Span.segmentId, Entry.number_eq_error_iff, Entry.number_eq_ok_iff_reads, placeOf_eq_error_iff,
    pure_ne_error, and_false, exists_false, or_false]
  -- the disjunctions nest as the links follow each other: broken here, or further on
  constructor
  · rintro (⟨e, h, hfailure⟩ | ⟨scopeId, hscopeId, ⟨h, hfailure⟩ | ⟨scope, hscope,
      ⟨cause, h, hfailure⟩ | ⟨spanId, hspanId, ⟨h, hfailure⟩ | ⟨span, hspan,
      ⟨cause, h, hfailure⟩ | ⟨segmentId, hsegmentId, ⟨h, hfailure⟩ | ⟨segment, hsegment,
      cause, h, hfailure⟩⟩⟩⟩⟩⟩)
    · exact ⟨e, .scopeId h, hfailure⟩
    · exact ⟨_, .scope hscopeId h, hfailure⟩
    · exact ⟨_, .spanList ⟨hscopeId, hscope⟩ h, hfailure⟩
    · exact ⟨_, .span ⟨hscopeId, hscope⟩ hspanId h, hfailure⟩
    · exact ⟨_, .segmentField ⟨_, _, ⟨hscopeId, hscope⟩, hspanId, hspan⟩ h, hfailure⟩
    · exact ⟨_, .segment ⟨_, _, ⟨hscopeId, hscope⟩, hspanId, hspan⟩ hsegmentId h, hfailure⟩
    · exact ⟨_, .place ⟨_, hscopeId, _, hscope, _, hspanId, _, hspan, hsegmentId, hsegment⟩ h,
        hfailure⟩
  · rintro ⟨e, hbreaks, hfailure⟩
    cases hbreaks with
    | scopeId h => exact Or.inl ⟨e, h, hfailure⟩
    | scope hscopeId h => exact Or.inr ⟨_, hscopeId, Or.inl ⟨h, hfailure⟩⟩
    | spanList hscope h =>
      exact Or.inr ⟨_, hscope.1, Or.inr ⟨_, hscope.2, Or.inl ⟨_, h, hfailure⟩⟩⟩
    | span hscope hspanId h =>
      exact Or.inr ⟨_, hscope.1, Or.inr ⟨_, hscope.2, Or.inr ⟨_, hspanId, Or.inl ⟨h, hfailure⟩⟩⟩⟩
    | segmentField hspan h =>
      obtain ⟨scopeId, scope, hscope, hspanId, hspan⟩ := hspan
      exact Or.inr ⟨_, hscope.1, Or.inr ⟨_, hscope.2, Or.inr ⟨_, hspanId, Or.inr ⟨_, hspan,
        Or.inl ⟨_, h, hfailure⟩⟩⟩⟩⟩
    | segment hspan hsegmentId h =>
      obtain ⟨scopeId, scope, hscope, hspanId, hspan⟩ := hspan
      exact Or.inr ⟨_, hscope.1, Or.inr ⟨_, hscope.2, Or.inr ⟨_, hspanId, Or.inr ⟨_, hspan,
        Or.inr ⟨_, hsegmentId, Or.inl ⟨h, hfailure⟩⟩⟩⟩⟩⟩
    | place hsegment h =>
      obtain ⟨scopeId, hscopeId, scope, hscope, spanId, hspanId, span, hspan, hsegmentId,
        hsegment⟩ := hsegment
      exact Or.inr ⟨_, hscopeId, Or.inr ⟨_, hscope, Or.inr ⟨_, hspanId, Or.inr ⟨_, hspan,
        Or.inr ⟨_, hsegmentId, Or.inr ⟨_, hsegment, _, h, hfailure⟩⟩⟩⟩⟩⟩

theorem outcome_place_eq_error_iff :
    (store.place symbol).outcome = .error failure ↔
      ∃ e, store.Breaks symbol e ∧ failure = .ofError e := by
  rw [outcome_place, ← follow_eq_error_iff]
  exact map_eq_error_iff

/-- A symbol is in no image exactly if its segment has no offset there. -/
theorem outcome_place_eq_ok_none_iff : (store.place symbol).outcome = .ok none ↔
    ∃ segmentId segment, store.LiesIn symbol segmentId segment ∧ segment.get? "ooffs" = none := by
  have hnone : ∀ chain : Chain, chain.placement? = none ↔ chain.place = none := fun chain => by
    simp [Chain.placement?]
  calc (store.place symbol).outcome = .ok none
      ↔ ∃ chain, store.follow symbol = .ok chain ∧ chain.place = none := by
        simp only [outcome_place, ← hnone]
        exact map_eq_ok_iff
    _ ↔ ∃ segmentId scopeId spanId,
          store.follow symbol = .ok ⟨scopeId, spanId, segmentId, none⟩ := by
        constructor
        · rintro ⟨⟨scopeId, spanId, segmentId, place⟩, h, rfl⟩
          exact ⟨segmentId, scopeId, spanId, h⟩
        · rintro ⟨segmentId, scopeId, spanId, h⟩
          exact ⟨_, h, rfl⟩
    _ ↔ ∃ segmentId segment, store.LiesIn symbol segmentId segment ∧
          segment.get? "ooffs" = none := by
        simp only [follow_eq_ok_iff, placeOf_eq_ok_none_iff]

/-- **Whether an error about a broken link can be worded** is a matter of its line alone, if the ids
of the store can be written. -/
theorem ScopeBreaks.isWritable_iff {e : Error} (hbreaks : store.ScopeBreaks symbol e)
    (hstore : store.HasWritableIds) (hid : Numeral.IsWritable symbol.id) :
    e.IsWritable ↔ e.HasWritablePlace := by
  cases hbreaks with
  | scopeField h => exact Entry.isWritable_malformed_iff hid h.numbers_eq
  | parentField _ h => exact Entry.isWritable_malformed_iff hid h.numbers_eq
  | parentScopeField _ _ hparent h =>
    exact Entry.isWritable_malformed_iff (hstore _ _ _ hparent) h.numbers_eq
  | noScopeNoParent =>
    simp [Error.isWritable_unresolvedScope_iff, Error.HasWritablePlace, Error.place?,
      ScopeGap.numbers, hid]
  | parent _ hparentId =>
    simp [Error.isWritable_missing_iff, Error.HasWritablePlace, Error.place?, Symbol.mention, hid,
      Entry.isWritable_of_reads hparentId]
  | parentWithoutScope _ _ hparent =>
    simp [Error.isWritable_unresolvedScope_iff, Error.HasWritablePlace, Error.place?,
      ScopeGap.numbers, Symbol.mention, Mention.numbers, hid, hstore _ _ _ hparent]

theorem Breaks.isWritable_iff {e : Error} (hbreaks : store.Breaks symbol e)
    (hstore : store.HasWritableIds) (hid : Numeral.IsWritable symbol.id) :
    e.IsWritable ↔ e.HasWritablePlace := by
  cases hbreaks with
  | scopeId h => exact h.isWritable_iff hstore hid
  | spanList hscope h =>
    exact Entry.isWritable_malformed_iff (hstore _ _ _ hscope.2) h.numbers_eq
  | segmentField hspan h =>
    obtain ⟨_, _, _, _, hfound⟩ := hspan
    exact Entry.isWritable_malformed_iff (hstore _ _ _ hfound) h.numbers_eq
  | place hsegment h =>
    obtain ⟨_, _, _, _, _, _, _, _, _, hfound⟩ := hsegment
    exact Entry.isWritable_malformed_iff (hstore _ _ _ hfound) h.numbers_eq
  | scope hscopeId =>
    simp [Error.isWritable_missing_iff, Error.HasWritablePlace, Error.place?, Symbol.mention, hid,
      isWritable_of_hasScope hscopeId]
  | span hscope hspanId =>
    simp [Error.isWritable_missing_iff, Error.HasWritablePlace, Error.place?,
      isWritable_of_hasScope hscope.1, Scope.isWritable_of_hasLeastSpan hspanId]
  | segment hspan hsegmentId =>
    obtain ⟨_, _, _, hspanId, _⟩ := hspan
    simp [Error.isWritable_missing_iff, Error.HasWritablePlace, Error.place?,
      Scope.isWritable_of_hasLeastSpan hspanId, Entry.isWritable_of_reads hsegmentId]

/-- The error about a broken link starts with the place of a stored entry or of the symbol. -/
theorem Breaks.hasWritablePlace {e : Error} (hbreaks : store.Breaks symbol e)
    (hstore : store.HasWritableLines) (hsymbol : ∀ place ∈ symbol.location, place.IsWritable) :
    e.HasWritablePlace := by
  cases hbreaks with
  | scopeId h =>
    cases h with
    | scopeField | parentField => exact hsymbol
    | parentScopeField _ _ hparent => exact hstore _ _ _ hparent
    | noScopeNoParent | parent | parentWithoutScope => exact fun place h => by cases h
  | spanList hscope => exact hstore _ _ _ hscope.2
  | segmentField hspan =>
    obtain ⟨_, _, _, _, hfound⟩ := hspan
    exact hstore _ _ _ hfound
  | place hsegment =>
    obtain ⟨_, _, _, _, _, _, _, _, _, hfound⟩ := hsegment
    exact hstore _ _ _ hfound
  | scope | span | segment => exact fun place h => by cases h

end Store
end DebugLabels
