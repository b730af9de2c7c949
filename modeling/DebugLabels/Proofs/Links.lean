import Mathlib.Logic.Basic
import DebugLabels.Placement

/-!
# Following the links of a symbol

`Store.follow` goes from a symbol to its segment link by link and stops at the first link that does
not hold. Here the same is said by look-ups and fields alone:

* `Entry.Reads`: a field is there and stands for a number;
* `Store.HasScope`: the scope of a symbol is its own or, if it names none, that of its parent;
* `Store.LiesIn`: scope, span with the least id and segment are stored, one naming the next;
* `Segment.IsPlacedAt`: a segment of the image has a start address and an offset.

Each step of the way succeeds exactly if its relation holds (`scopeIdOf_eq_ok_iff`,
`lowestSpanId_eq_ok_iff`, `follow_eq_ok_iff`, `outcome_place_eq_ok_some_iff`).
-/

namespace DebugLabels

/-- A chain of two steps succeeds if the first does and the second does on its value. -/
theorem bind_eq_ok_iff {ε α β : Type} {first : Except ε α} {second : α → Except ε β} {b : β} :
    (first >>= second) = .ok b ↔ ∃ a, first = .ok a ∧ second a = .ok b := by
  cases first <;> simp [bind, Except.bind]

theorem pure_eq_ok_iff {ε α : Type} {a b : α} : (pure a : Except ε α) = .ok b ↔ a = b := by
  simp [pure, Except.pure]

theorem throw_ne_ok {ε α : Type} {e : ε} {a : α} : (throw e : Except ε α) ≠ .ok a := by
  simp [throw, throwThe, MonadExceptOf.throw]

theorem map_eq_ok_iff {ε α β : Type} {f : α → β} {step : Except ε α} {b : β} :
    f <$> step = .ok b ↔ ∃ a, step = .ok a ∧ f a = b := by
  cases step <;> simp [Functor.map, Except.map]

theorem Logged.outcome_bind_eq_ok_iff {α β : Type} {first : Logged α} {second : α → Logged β}
    {b : β} : (first >>= second).outcome = .ok b ↔
      ∃ a, first.outcome = .ok a ∧ (second a).outcome = .ok b := by
  rw [outcome_bind]
  exact bind_eq_ok_iff

namespace Entry

variable {table : Table} {entry : Entry table} {key : String}

/-- The field with the key is there and stands for a number. -/
def Reads (entry : Entry table) (radix : Radix) (key : String) (n : Int) : Prop :=
  ∃ raw, entry.get? key = some raw ∧ radix.field? raw = some n

theorem number_eq_ok_iff_reads {radix : Radix} {n : Int} :
    entry.number radix key = .ok n ↔ entry.Reads radix key n := number_eq_ok_iff

/-- A field stands for one number. -/
theorem eq_of_reads {radix : Radix} {m n : Int} (hm : entry.Reads radix key m)
    (hn : entry.Reads radix key n) : m = n := by
  rw [← number_eq_ok_iff_reads] at hm hn
  exact Except.ok.inj (hm.symm.trans hn)

theorem has_eq_false_iff : entry.has key = false ↔ entry.get? key = none := by
  rw [has, Fields.contains, Option.isSome_eq_false_iff, Option.isNone_iff_eq_none, get?]

/-- A field that need not be there is read as nothing exactly if it is not there. -/
theorem decimalIfPresent_eq_ok_none_iff :
    entry.decimalIfPresent key = .ok none ↔ entry.get? key = none := by
  rw [← has_eq_false_iff, decimalIfPresent]
  cases entry.has key <;> simp [map_eq_ok_iff]

/-- It is read as a number exactly if it is there and stands for the number. -/
theorem decimalIfPresent_eq_ok_some_iff {n : Int} :
    entry.decimalIfPresent key = .ok (some n) ↔ entry.Reads .decimal key n := by
  rw [decimalIfPresent]
  split
  · simp [map_eq_ok_iff, number_eq_ok_iff_reads]
  · rename_i h
    rw [Bool.not_eq_true, has_eq_false_iff] at h
    simp [Reads, h]

end Entry

/-- The least id of the span list of a scope. -/
def Scope.HasLeastSpan (scope : Scope) (spanId : Int) : Prop :=
  ∃ raw ids, scope.get? "span" = some raw ∧ idList? raw = some ids ∧
    spanId ∈ ids ∧ ∀ id ∈ ids, spanId ≤ id

/-- **The span that stands for a scope** is the one with the least id of a list that is not
empty. -/
theorem Scope.lowestSpanId_eq_ok_iff {scope : Scope} {spanId : Int} :
    lowestSpanId scope = .ok spanId ↔ scope.HasLeastSpan spanId := by
  unfold lowestSpanId spanIds
  simp only [map_eq_ok_iff, bind_eq_ok_iff, Entry.idList_eq_ok_iff]
  constructor
  · rintro ⟨ids, ⟨list, ⟨raw, hraw, hlist⟩, hids⟩, hleast⟩
    by_cases hempty : list.isEmpty = true
    · rw [if_pos hempty, bind_eq_ok_iff] at hids
      obtain ⟨_, hthrow, -⟩ := hids
      exact absurd hthrow throw_ne_ok
    · rw [if_neg hempty, pure_eq_ok_iff] at hids
      subst hids
      have hne : list ≠ [] := fun h => hempty (List.isEmpty_iff.2 h)
      exact ⟨raw, list, hraw, hlist, (least_eq_iff hne).1 hleast⟩
  · rintro ⟨raw, ids, hraw, hids, hmem, hle⟩
    have hne : ids ≠ [] := List.ne_nil_of_mem hmem
    refine ⟨ids, ⟨ids, ⟨raw, hraw, hids⟩, ?_⟩, (least_eq_iff hne).2 ⟨hmem, hle⟩⟩
    rw [if_neg (fun h => hne (List.isEmpty_iff.1 h))]
    rfl

namespace Segment

/-- A segment of the image starts at an address and stands at an offset of the image. -/
def IsPlacedAt (segment : Segment) (start offset : Int) : Prop :=
  segment.Reads .hexadecimal "start" start ∧ segment.Reads .decimal "ooffs" offset

end Segment

/-- The links end at a place exactly if their segment has one. -/
theorem Chain.placement?_eq_some_iff {chain : Chain} {placement : Placement} :
    chain.placement? = some placement ↔
      chain.segmentId = placement.segmentId ∧
        chain.place = some (placement.base, placement.offset) := by
  obtain ⟨scopeId, spanId, segmentId, place⟩ := chain
  obtain ⟨base, offset, id⟩ := placement
  rcases place with _ | ⟨start, offset'⟩
  · simp [placement?]
  · simp only [placement?, Option.map_some, Option.some.injEq, Placement.mk.injEq, Prod.mk.injEq]
    exact and_rotate.symm

namespace Store

variable {store : Store} {symbol : Symbol}

theorem get_eq_ok_iff {table : Table} {id : Int} {referrer : Option Mention} {entry : Entry table} :
    store.get table id referrer = .ok entry ↔ store.find? table id = some entry := by
  unfold get
  cases store.find? table id <;> simp

theorem placeOf_eq_ok_some_iff {segment : Segment} {start offset : Int} :
    placeOf segment = .ok (some (start, offset)) ↔ Segment.IsPlacedAt segment start offset := by
  unfold placeOf Segment.isInImage Segment.IsPlacedAt
  split
  · simp [bind_eq_ok_iff, map_eq_ok_iff, Segment.start, Segment.imageOffset,
      Entry.number_eq_ok_iff_reads]
  · rename_i h
    rw [Bool.not_eq_true, Entry.has_eq_false_iff] at h
    simp [Entry.Reads, h]

/-- The scope of a symbol: the one that it names or, if it names none, the one that its parent
names. -/
def HasScope (store : Store) (symbol : Symbol) (scopeId : Int) : Prop :=
  symbol.Reads .decimal "scope" scopeId ∨
    symbol.get? "scope" = none ∧ ∃ parentId, symbol.Reads .decimal "parent" parentId ∧
      ∃ parent, store.find? .symbol parentId = some parent ∧ parent.Reads .decimal "scope" scopeId

theorem scopeIdOf_eq_ok_iff {scopeId : Int} :
    store.scopeIdOf symbol = .ok scopeId ↔ store.HasScope symbol scopeId := by
  simp only [scopeIdOf, HasScope, Symbol.scopeId, Symbol.parentId, bind_eq_ok_iff, Option.exists,
    Entry.decimalIfPresent_eq_ok_none_iff, Entry.decimalIfPresent_eq_ok_some_iff, pure_eq_ok_iff,
    throw_ne_ok, and_false, false_or, exists_eq_right, get_eq_ok_iff]
  exact or_comm

/-- The links lead from a symbol over the span with the least id of its scope to a segment. -/
def LiesIn (store : Store) (symbol : Symbol) (segmentId : Int) (segment : Segment) : Prop :=
  ∃ scopeId, store.HasScope symbol scopeId ∧
    ∃ scope, store.find? .scope scopeId = some scope ∧
      ∃ spanId, Scope.HasLeastSpan scope spanId ∧
        ∃ span, store.find? .span spanId = some span ∧
          span.Reads .decimal "seg" segmentId ∧ store.find? .segment segmentId = some segment

/-- **Following the links succeeds exactly if they lead to a segment** that is not in the image, or
has a start and an offset there. -/
theorem follow_eq_ok_iff {segmentId : Int} {place : Option (Int × Int)} :
    (∃ scopeId spanId, store.follow symbol = .ok ⟨scopeId, spanId, segmentId, place⟩) ↔
      ∃ segment, store.LiesIn symbol segmentId segment ∧ placeOf segment = .ok place := by
  simp only [follow, bind_eq_ok_iff, scopeIdOf_eq_ok_iff, get_eq_ok_iff,
    Scope.lowestSpanId_eq_ok_iff, Span.segmentId, Entry.number_eq_ok_iff_reads, pure_eq_ok_iff,
    Chain.mk.injEq]
  constructor
  · rintro ⟨_, _, scopeId, hscopeId, scope, hscope, spanId, hspanId, span, hspan, id, hid, segment,
      hsegment, place', hplace, rfl, rfl, rfl, rfl⟩
    exact ⟨segment, ⟨_, hscopeId, scope, hscope, _, hspanId, span, hspan, hid, hsegment⟩, hplace⟩
  · rintro ⟨segment,
      ⟨scopeId, hscopeId, scope, hscope, spanId, hspanId, span, hspan, hid, hsegment⟩, hplace⟩
    exact ⟨scopeId, spanId, scopeId, hscopeId, scope, hscope, spanId, hspanId, span, hspan,
      segmentId, hid, segment, hsegment, place, hplace, rfl, rfl, rfl, rfl⟩

/-- Without what is told on the way, the place of a symbol is where its links lead. -/
theorem outcome_place (store : Store) (symbol : Symbol) :
    (store.place symbol).outcome = (store.follow symbol).map Chain.placement? := by
  unfold place
  cases store.follow symbol <;> simp [Except.bind, Except.map]

/-- **A symbol has a place exactly if its segment is in the image**, with a start and an offset. -/
theorem outcome_place_eq_ok_some_iff {placement : Placement} :
    (store.place symbol).outcome = .ok (some placement) ↔
      ∃ segment, store.LiesIn symbol placement.segmentId segment ∧
        Segment.IsPlacedAt segment placement.base placement.offset := by
  have hfollow : (store.place symbol).outcome = .ok (some placement) ↔
      ∃ scopeId spanId, store.follow symbol =
        .ok ⟨scopeId, spanId, placement.segmentId, some (placement.base, placement.offset)⟩ := by
    rw [outcome_place]
    constructor
    · intro h
      obtain ⟨⟨scopeId, spanId, segmentId, place⟩, hok, hplace⟩ := map_eq_ok_iff.1 h
      obtain ⟨rfl, rfl⟩ := Chain.placement?_eq_some_iff.1 hplace
      exact ⟨scopeId, spanId, hok⟩
    · rintro ⟨scopeId, spanId, h⟩
      exact map_eq_ok_iff.2 ⟨_, h, Chain.placement?_eq_some_iff.2 ⟨rfl, rfl⟩⟩
  rw [hfollow, follow_eq_ok_iff]
  simp only [placeOf_eq_ok_some_iff]

end Store
end DebugLabels
