import DebugLabels.Proofs.History
import DebugLabels.Proofs.WrittenNumber

/-!
# Records that replace others

A record that is accepted with an id that its table has already replaces the entry there, and a
warning says so. So an accepted record is one entry of its table, or there is a warning, until an
info record empties the tables.

`notices_takeIn` says what one call tells, kind by kind, and `filter_isDuplicateIn_takeIn` what of
it tells of duplicates in a table: one notice or none. `count_after_of_idIn?` is what one accepted
record does to its table: either the table grows by one, or there is that notice. The other calls
leave the table alone, or empty it (`count_after`, `count_after_of_info`), so the balance of a whole
sequence of calls follows by induction from its end (`countP_sinceInfo`). `afterAll_keepsOrWarns`
puts this together with the wording of the warnings (`Notice.eq_duplicate_iff`).
-/

namespace DebugLabels

variable {table : Table}

/-! ### Histories -/

/-- The notice says that a record of the table replaces another. -/
def Notice.isDuplicateIn (table : Table) : Notice → Bool
  | duplicate other _ => other = table
  | _ => false

/-- A call, and what came of it. -/
structure TakenIn where
  call : Call
  result : Logged Store

namespace TakenIn

/-- The record was accepted. -/
def isAccepted (taken : TakenIn) : Bool := taken.result.outcome.isOk

/-- The record was accepted, and it is of the kind. -/
def isAcceptedAs (kind : Kind) (taken : TakenIn) : Bool :=
  taken.isAccepted && taken.call.kind? = some kind

/-- The warnings that were given. -/
def warnings (taken : TakenIn) : List Notice := Notice.atLeast .warning taken.result.notices

/-- What comes after the last info record that was accepted, or everything if none was. -/
def sinceInfo (history : List TakenIn) : List TakenIn :=
  history.rtakeWhile fun taken => !taken.isAcceptedAs .info

end TakenIn

namespace Store

/-- What comes of each call of a sequence. -/
def history (store : Store) : List Call → List TakenIn
  | [] => []
  | call :: calls => ⟨call, store.takeIn call⟩ :: (store.after call).history calls

theorem history_append (store : Store) (calls : List Call) (call : Call) :
    store.history (calls ++ [call]) =
      store.history calls ++ [⟨call, (store.afterAll calls).takeIn call⟩] := by
  induction calls generalizing store with
  | nil => rfl
  | cons first calls ih =>
    rw [List.cons_append, history, ih, history, List.cons_append]
    rfl

end Store

/-! ### The wording of a duplicate -/

namespace Numeral

/-- Two numbers that are written alike in decimal are one. -/
theorem decimal_injective : Function.Injective decimal := by
  intro m n h
  have hminus : ∀ n : Nat, '-' ∉ Nat.toDigits 10 n := fun n hc => by
    have hdigit : '-' ∈ Nat.toDigits Radix.decimal.base n := hc
    exact of_mem_toDigits (P := fun c => c ≠ '-') (by decide) hdigit rfl
  have hdigits : ∀ a b : Nat, Nat.toDigits 10 a = Nat.toDigits 10 b → a = b := by
    intro a b hab
    have hread := congrArg (fun cs => Nat.ofDigitChars 10 cs 0) hab
    simpa [Nat.ofDigitChars_toDigits] using hread
  have hwrite : sign m ++ Nat.toDigits 10 m.natAbs = sign n ++ Nat.toDigits 10 n.natAbs :=
    String.ofList_injective h
  unfold sign at hwrite
  split at hwrite <;> split at hwrite
  · have := hdigits _ _ (List.append_cancel_left hwrite)
    omega
  · have hmem : '-' ∈ [] ++ Nat.toDigits 10 n.natAbs := hwrite ▸ List.mem_cons_self
    exact absurd hmem (hminus n.natAbs)
  · have hmem : '-' ∈ [] ++ Nat.toDigits 10 m.natAbs := hwrite ▸ List.mem_cons_self
    exact absurd hmem (hminus m.natAbs)
  · have := hdigits _ _ hwrite
    omega

end Numeral

theorem Table.name_injective : Function.Injective name := by
  intro a b h
  have hname : (Kind.table a).name = (Kind.table b).name := h
  have hfound := congrArg Kind.ofName? hname
  rw [Kind.ofName?_name, Kind.ofName?_name] at hfound
  simpa using hfound

namespace Notice

theorem message_duplicate (table : Table) (id : Int) :
    (duplicate table id).message =
      "Duplicate " ++ table.name ++ " id " ++ Numeral.decimal id ++
        ", keeping the later record" := rfl

/-- What a duplicate is told with names its table and its id. -/
theorem message_duplicate_inj {other : Table} {id n : Int}
    (h : (duplicate table id).message = (duplicate other n).message) :
    table = other ∧ id = n := by
  -- the name is a plain word, so it ends at the first space
  have hname : ∀ (table : Table) (rest : List Char),
      (table.name.toList ++ ' ' :: rest).takeWhile (· ≠ ' ') = table.name.toList := by
    intro table rest
    have hspace : ' ' ∉ table.name.toList := by cases table <;> simp [Table.name]
    have hplain : ∀ c ∈ table.name.toList, decide (c ≠ ' ') = true := fun c hc =>
      decide_eq_true fun heq => hspace (heq ▸ hc)
    rw [List.takeWhile_append_of_pos hplain, List.takeWhile_cons_of_neg (by simp), List.append_nil]
  rw [message_duplicate, message_duplicate] at h
  have hchars := congrArg String.toList h
  simp only [String.toList_append, List.append_assoc] at hchars
  have hrest := List.append_cancel_left hchars
  have htables : table = other := by
    refine Table.name_injective (String.toList_injective ?_)
    rw [← hname table, ← hname other]
    exact congrArg (List.takeWhile _) hrest
  subst htables
  have hid := List.append_cancel_right
    (List.append_cancel_left (List.append_cancel_left hrest))
  exact ⟨rfl, Numeral.decimal_injective (String.toList_injective hid)⟩

/-- A warning with the wording of a duplicate is a duplicate. -/
theorem eq_duplicate_iff {notice : Notice} {id : Int} :
    notice = .duplicate table id ↔
      notice.level = .warning ∧ notice.message = (duplicate table id).message := by
  constructor
  · rintro rfl
    exact ⟨rfl, rfl⟩
  · rintro ⟨hlevel, hmessage⟩
    -- the other warnings start with other words
    have hstart := congrArg (fun text => text.toList.take 2) hmessage
    rw [message_duplicate] at hstart
    cases notice with
    | duplicate other n =>
      obtain ⟨rfl, rfl⟩ := message_duplicate_inj hmessage
      rfl
    | versionUnreadable fields =>
      have hwords : (versionUnreadable fields).message =
          "Unreadable debug file version: " ++ fields.shown := rfl
      rw [hwords] at hstart
      simp at hstart
    | versionTooOld major minor =>
      have hwords : (versionTooOld major minor).message =
          "Debug file version " ++ Numeral.decimal major ++ "." ++ Numeral.decimal minor ++
            " is older than 2.0" := rfl
      rw [hwords] at hstart
      simp at hstart
    | _ => cases hlevel

end Notice

/-! ### What a call tells -/

namespace Notice

theorem isDuplicateIn_eq_true_iff {notice : Notice} :
    notice.isDuplicateIn table = true ↔ ∃ id, notice = .duplicate table id := by
  cases notice <;> simp [isDuplicateIn]

/-- That a record replaces another is a warning. -/
theorem countP_atLeast_warning (notices : List Notice) :
    (atLeast .warning notices).countP (isDuplicateIn table) =
      notices.countP (isDuplicateIn table) := by
  rw [atLeast, List.countP_filter]
  refine List.countP_congr fun notice _ => ?_
  cases notice <;> simp [isDuplicateIn, level, Level.rank]

end Notice

namespace Store

variable {store : Store} {call : Call}

theorem isDuplicateIn_of_mem_versionWarnings {fields : Fields} {notice : Notice}
    (h : notice ∈ versionWarnings fields) : notice.isDuplicateIn table = false := by
  unfold versionWarnings at h
  split at h
  · rw [List.mem_singleton.1 h]
    rfl
  · split at h
    · rw [List.mem_singleton.1 h]
      rfl
    · cases h

/-- A record of another kind is not told of as a duplicate in the table. -/
theorem filter_isDuplicateIn_noticesOf_of_ne (store : Store) (call : Call) {kind : Kind}
    (h : kind ≠ .table table) :
    (store.noticesOf call kind).filter (Notice.isDuplicateIn table) = [] := by
  rw [List.filter_eq_nil_iff]
  intro notice hnotice
  rw [Bool.not_eq_true]
  cases kind with
  | version =>
    rcases List.mem_cons.1 hnotice with rfl | hnotice
    · rfl
    · exact isDuplicateIn_of_mem_versionWarnings hnotice
  | info =>
    rw [List.mem_singleton.1 hnotice]
    rfl
  | table other =>
    have hne : other ≠ table := fun heq => h (congrArg Kind.table heq)
    rw [noticesOf] at hnotice
    split at hnotice
    · cases hnotice
    · split at hnotice
      · rw [List.mem_singleton.1 hnotice]
        exact decide_eq_false hne
      · cases hnotice
  | discarded kind => cases hnotice

/-- A usable record of the table is told of as a duplicate if its id is there. -/
theorem noticesOf_table (store : Store) {id : Int} (husable : call.isUsable = true)
    (hid : call.idIn? table = some id) :
    store.noticesOf call (.table table) =
      if (store.find? table id).isSome then [.duplicate table id] else [] := by
  have hnumber : call.number? = some id :=
    (RecordLine.idIn?_of_kind? (RecordLine.kind?_of_idIn? hid)).symm.trans hid
  have hentry : entryId table call.decoded = .ok id :=
    RecordLine.entryId_eq_ok_iff.2 ⟨hnumber, RecordLine.nonneg_of_idIn? husable hid⟩
  rw [noticesOf, hentry]

/-- A record that cannot be used is told of for its fields only. -/
theorem noticesOf_of_not_isUsable (store : Store) {kind : Kind} (hkind : call.kind? = some kind)
    (husable : call.isUsable = false) : store.noticesOf call kind = [] := by
  unfold RecordLine.isUsable at husable
  rw [hkind] at husable
  cases kind with
  | table table =>
    rw [noticesOf]
    split
    · rfl
    · rename_i id hid
      obtain ⟨hnumber, hnonneg⟩ := RecordLine.entryId_eq_ok_iff.1 hid
      simp [hnumber, hnonneg] at husable
  | _ => cases husable

/-- **What a call tells of duplicates** in a table: at most the one of its own id, if that is there
already and the record is accepted. -/
theorem filter_isDuplicateIn_takeIn (store : Store) (call : Call) (table : Table) :
    (store.takeIn call).notices.filter (Notice.isDuplicateIn table) =
      match call.idIn? table with
      | some id =>
        if call.isUsable = true ∧ (store.find? table id).isSome then [.duplicate table id] else []
      | none => [] := by
  have hvalueless : ((Fields.keysWithoutValue call.fields).map Notice.valueless).filter
      (Notice.isDuplicateIn table) = [] := by
    rw [List.filter_eq_nil_iff]
    simp [Notice.isDuplicateIn]
  rw [notices_takeIn, noticesOfCall]
  cases hkind : call.kind? with
  | none =>
    rw [RecordLine.idIn?_eq_none (by simp [hkind])]
    rfl
  | some kind =>
    dsimp only
    rw [List.filter_append, hvalueless, List.nil_append]
    by_cases htable : kind = .table table
    · subst htable
      by_cases husable : call.isUsable = true
      · obtain ⟨id, hid⟩ := RecordLine.exists_idIn? husable hkind
        rw [noticesOf_table store husable hid, hid]
        by_cases hfound : (store.find? table id).isSome <;>
          simp [husable, hfound, Notice.isDuplicateIn]
      · rw [Bool.not_eq_true] at husable
        rw [noticesOf_of_not_isUsable store hkind husable, husable]
        cases call.idIn? table <;> simp
    · rw [filter_isDuplicateIn_noticesOf_of_ne store call htable,
        RecordLine.idIn?_eq_none (by simp [hkind, htable])]

/-- A call tells of a duplicate exactly if its record is accepted and its id is there already. -/
theorem duplicate_mem_notices_takeIn_iff {id : Int} :
    .duplicate table id ∈ (store.takeIn call).notices ↔
      call.isUsable = true ∧ call.idIn? table = some id ∧ (store.find? table id).isSome := by
  have hmem : .duplicate table id ∈ (store.takeIn call).notices ↔
      .duplicate table id ∈ (store.takeIn call).notices.filter (Notice.isDuplicateIn table) := by
    simp [List.mem_filter, Notice.isDuplicateIn]
  rw [hmem, filter_isDuplicateIn_takeIn]
  cases call.idIn? table with
  | none => simp
  | some other =>
    by_cases hfound : call.isUsable = true ∧ (store.find? table other).isSome
    · simp only [hfound, and_self, if_true, List.mem_singleton, Notice.duplicate.injEq, true_and,
        Option.some.injEq]
      constructor
      · rintro rfl
        exact ⟨rfl, hfound.2⟩
      · rintro ⟨rfl, -⟩
        rfl
    · dsimp only
      rw [if_neg hfound]
      simp only [List.not_mem_nil, Option.some.injEq, false_iff]
      rintro ⟨husable, rfl, hid⟩
      exact hfound ⟨husable, hid⟩

/-! ### The balance of a table -/

/-- A table grows by an entry unless its id is there already. -/
theorem count_put (store : Store) (entry : Entry table) :
    (store.put entry).count (.table table) =
      if (store.find? table entry.id).isSome then store.count (.table table)
      else store.count (.table table) + 1 := by
  have hmem : ∀ (entries : EntryTable table) (id : Int),
      entries.contains id = (entries[id]?).isSome := fun entries id =>
    Std.ExtTreeMap.isSome_getElem?_eq_contains.symm
  cases table <;>
    simp only [count, put, entries, find?, Std.ExtTreeMap.size_insert, hmem] <;> rfl

/-- A record of the table that is accepted adds an entry to it, or it is a duplicate. -/
theorem count_after_of_idIn? (store : Store) {id : Int} (husable : call.isUsable = true)
    (hid : call.idIn? table = some id) :
    (store.after call).count (.table table) +
        (store.takeIn call).notices.countP (Notice.isDuplicateIn table) =
      store.count (.table table) + 1 := by
  rw [after_of_idIn? store husable hid, count_put, List.countP_eq_length_filter,
    filter_isDuplicateIn_takeIn, hid]
  show (if (store.find? table id).isSome = true then _ else _) + _ = _
  by_cases hfound : (store.find? table id).isSome <;> simp [husable, hfound]

/-- Other records leave a table alone, unless they empty it. -/
theorem count_after_of_ne (store : Store) (husable : call.isUsable = true)
    (hinfo : call.kind? ≠ some .info) (htable : call.kind? ≠ some (.table table)) :
    (store.after call).count (.table table) = store.count (.table table) := by
  rcases hkind : call.kind? with _ | _ | _ | other | kind
  · simp [RecordLine.isUsable, hkind] at husable
  · rw [after_of_version store hkind]
    cases table <;> rfl
  · exact absurd hkind hinfo
  · obtain ⟨entry, hentry⟩ := after_of_table store husable hkind
    have hne : other ≠ table := by
      rintro rfl
      exact htable hkind
    rw [hentry]
    cases other <;> cases table <;> first | rfl | exact absurd rfl hne
  · rw [after_of_discarded store hkind]
    cases table <;> rfl

/-- An info record empties a table. -/
theorem count_after_of_info (store : Store) (hinfo : call.kind? = some .info) :
    (store.after call).count (.table table) = 0 := by
  rw [after_of_info store hinfo]
  cases table <;> exact Std.ExtTreeMap.size_empty

end Store

namespace TakenIn

/-- Whether a record is accepted is a matter of the record alone. -/
theorem isAccepted_takeIn (store : Store) (call : Call) :
    (mk call (store.takeIn call)).isAccepted = call.isUsable := by
  rw [Bool.eq_iff_iff, ← Store.exists_outcome_takeIn_iff store, isAccepted]
  cases (store.takeIn call).outcome <;> simp [Except.isOk, Except.toBool]

theorem isAcceptedAs_takeIn_iff {store : Store} {call : Call} {kind : Kind} :
    (mk call (store.takeIn call)).isAcceptedAs kind = true ↔
      call.isUsable = true ∧ call.kind? = some kind := by
  rw [isAcceptedAs, isAccepted_takeIn, Bool.and_eq_true, decide_eq_true_iff]

/-- **What one call does to the balance of a table**, unless it empties the table. -/
theorem count_after (store : Store) (table : Table) {call : Call}
    (hinfo : (mk call (store.takeIn call)).isAcceptedAs .info = false) :
    (store.after call).count (.table table) +
        (store.takeIn call).notices.countP (Notice.isDuplicateIn table) =
      store.count (.table table) +
        if (mk call (store.takeIn call)).isAcceptedAs (.table table) then 1 else 0 := by
  by_cases hid : call.isUsable = true ∧ call.kind? = some (.table table)
  · obtain ⟨id, hid'⟩ := RecordLine.exists_idIn? hid.1 hid.2
    rw [if_pos (isAcceptedAs_takeIn_iff.2 hid)]
    exact Store.count_after_of_idIn? store hid.1 hid'
  · have hnone : (store.takeIn call).notices.filter (Notice.isDuplicateIn table) = [] := by
      rw [Store.filter_isDuplicateIn_takeIn]
      cases hother : call.idIn? table with
      | none => rfl
      | some id =>
        exact if_neg fun h => hid ⟨h.1, RecordLine.kind?_of_idIn? hother⟩
    rw [if_neg (mt isAcceptedAs_takeIn_iff.1 hid), List.countP_eq_length_filter, hnone]
    show (store.after call).count (.table table) = store.count (.table table)
    by_cases husable : call.isUsable = true
    · have hother : call.kind? ≠ some .info := fun h => by
        rw [isAcceptedAs_takeIn_iff.2 ⟨husable, h⟩] at hinfo
        cases hinfo
      exact Store.count_after_of_ne store husable hother fun h => hid ⟨husable, h⟩
    · rw [Store.after_of_not_isUsable store (Bool.eq_false_iff.2 husable)]

/-- **The balance of a table after a sequence of calls**, by induction on the calls from their end:
an info record starts it afresh, and any other call keeps it. -/
theorem countP_sinceInfo (calls : List Call) (table : Table) :
    (sinceInfo (Store.empty.history calls)).countP (isAcceptedAs (.table table)) =
      (Store.empty.afterAll calls).count (.table table) +
        ((sinceInfo (Store.empty.history calls)).flatMap warnings).countP
          (Notice.isDuplicateIn table) := by
  induction calls using List.reverseRecOn with
  | nil => cases table <;> rfl
  | append_singleton calls call ih =>
    rw [Store.history_append, Store.afterAll_append, sinceInfo, List.rtakeWhile_concat]
    generalize Store.empty.afterAll calls = store at ih ⊢
    cases hinfo : (mk call (store.takeIn call)).isAcceptedAs .info with
    | true =>
      rw [Store.count_after_of_info store (isAcceptedAs_takeIn_iff.1 hinfo).2]
      rfl
    | false =>
      have hstep := count_after store table hinfo
      rw [sinceInfo] at ih
      simp only [Bool.not_false, if_true, List.countP_append, List.flatMap_append,
        List.flatMap_singleton, List.countP_singleton, warnings, Notice.countP_atLeast_warning]
      omega

/-- After the info record the ids 1 and 01 are one: two symbols are accepted, one is kept, and there
is one warning. -/
example :
    let calls : List Call := [⟨⟨"sym", "id=1"⟩, none⟩, ⟨⟨"info", ""⟩, none⟩,
      ⟨⟨"sym", "id=1"⟩, none⟩, ⟨⟨"sym", "id=x"⟩, none⟩, ⟨⟨"sym", "id=01"⟩, none⟩]
    (sinceInfo (Store.empty.history calls)).countP (isAcceptedAs (.table .symbol)) = 2 ∧
      (Store.empty.afterAll calls).count (.table .symbol) = 1 ∧
      (sinceInfo (Store.empty.history calls)).flatMap warnings = [.duplicate .symbol 1] := by
  decide +kernel

end TakenIn

/-! ### All of it -/

namespace Store

open TakenIn

/-- A record that is rejected is warned of in no way. -/
theorem warnings_eq_nil (store : Store) {call : Call} (husable : call.isUsable = false) :
    (TakenIn.mk call (store.takeIn call)).warnings = [] := by
  have hvalueless : Notice.atLeast .warning
      ((Fields.keysWithoutValue call.fields).map Notice.valueless) = [] := by
    rw [Notice.atLeast, List.filter_eq_nil_iff]
    simp [Notice.level, Level.rank]
  rw [warnings, notices_takeIn, noticesOfCall]
  cases hkind : call.kind? with
  | none => rfl
  | some kind =>
    dsimp only
    rw [noticesOf_of_not_isUsable store hkind husable, List.append_nil, hvalueless]

/-- The records of a table are kept, or a warning is given: what a sequence of calls comes to from
an empty store, and what the next call is warned of. -/
structure KeepsOrWarns (calls : List Call) (table : Table) : Prop where
  /-- The accepted records since the last info record are in the table, or a warning was given. -/
  balance : (sinceInfo (empty.history calls)).countP (isAcceptedAs (.table table)) =
    (empty.afterAll calls).count (.table table) +
      ((sinceInfo (empty.history calls)).flatMap warnings).countP (Notice.isDuplicateIn table)
  /-- The warnings that are counted are those with the wording of a duplicate. -/
  wording : ∀ notice : Notice, notice.isDuplicateIn table = true ↔
    notice.level = .warning ∧ ∃ id, notice.message =
      "Duplicate " ++ table.name ++ " id " ++ Numeral.decimal id ++ ", keeping the later record"
  /-- The next record is warned of exactly if it is accepted and its id is in the table already. -/
  warned_iff : ∀ call id,
    (∃ notice ∈ (TakenIn.mk call ((empty.afterAll calls).takeIn call)).warnings, notice.message =
      "Duplicate " ++ table.name ++ " id " ++ Numeral.decimal id ++ ", keeping the later record") ↔
    (TakenIn.mk call ((empty.afterAll calls).takeIn call)).isAccepted = true ∧
      call.idIn? table = some id ∧ ((empty.afterAll calls).find? table id).isSome
  /-- It is warned of once at most. -/
  warned_once : ∀ call,
    (TakenIn.mk call ((empty.afterAll calls).takeIn call)).warnings.countP
      (Notice.isDuplicateIn table) ≤ 1
  /-- A record that is rejected is not warned of. -/
  rejected : ∀ call,
    (TakenIn.mk call ((empty.afterAll calls).takeIn call)).isAccepted = false →
      (TakenIn.mk call ((empty.afterAll calls).takeIn call)).warnings = []

/-- **No record is lost without a warning.** -/
theorem afterAll_keepsOrWarns (calls : List Call) (table : Table) : KeepsOrWarns calls table where
  balance := countP_sinceInfo calls table
  wording notice := by
    rw [Notice.isDuplicateIn_eq_true_iff]
    simp only [Notice.eq_duplicate_iff, exists_and_left, Notice.message_duplicate]
  warned_iff call id := by
    rw [isAccepted_takeIn, ← duplicate_mem_notices_takeIn_iff, warnings]
    constructor
    · rintro ⟨notice, hnotice, hmessage⟩
      obtain ⟨hmem, hlevel⟩ := List.mem_filter.1 hnotice
      have hwarning : notice.level = .warning := by
        cases notice <;> first | rfl | cases hlevel
      rwa [← Notice.eq_duplicate_iff.2 ⟨hwarning, hmessage⟩]
    · intro hmem
      exact ⟨.duplicate table id, List.mem_filter.2 ⟨hmem, rfl⟩, rfl⟩
  warned_once call := by
    rw [warnings, Notice.countP_atLeast_warning, List.countP_eq_length_filter,
      filter_isDuplicateIn_takeIn]
    split
    · split <;> simp
    · exact Nat.zero_le 1
  rejected call h := warnings_eq_nil _ ((isAccepted_takeIn _ call).symm.trans h)

end Store
end DebugLabels
