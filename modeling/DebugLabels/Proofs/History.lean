import Mathlib.Data.Finset.Card
import Mathlib.Data.List.DropRight
import DebugLabels.Proofs.Call

/-!
# What a store holds after a sequence of records

`Store.afterAll` hands a sequence of calls to a store, one after the other; those that fail leave it
as it was. What the store then holds is read off the sequence:

* an entry under an id is that of the last usable record with the id, and no record before the last
  usable info record counts (`find?_afterAll`);
* the version and the info are those of the last usable record of their kind (`version_afterAll`,
  `info_afterAll`);
* a discarded kind is counted over the whole sequence (`count_discarded_afterAll`), a table by its
  distinct ids (`count_table_afterAll`).

Each is an induction on the sequence from its end, by what one usable record does to that part of a
store. `afterAll_holds` puts them together.
-/

namespace DebugLabels

namespace Call

/-- The calls that do not fail. -/
def usable (calls : List Call) : List Call := calls.filter fun call => call.isUsable

/-- The calls that do not fail, after the last info record among them. -/
def sinceInfo (calls : List Call) : List Call :=
  (usable calls).rtakeWhile fun call => call.kind? ≠ some .info

/-- The last call whose record has an id in a table. -/
def lastIn (table : Table) (id : Int) (calls : List Call) : Option Call :=
  (calls.filter fun call => call.idIn? table = some id).getLast?

/-- The last call whose record is of a kind. -/
def lastOf (kind : Kind) (calls : List Call) : Option Call :=
  (calls.filter fun call => call.kind? = some kind).getLast?

theorem usable_append_of_not {call : Call} (h : call.isUsable = false) (calls : List Call) :
    usable (calls ++ [call]) = usable calls := by
  simp [usable, h]

theorem usable_append_of {call : Call} (h : call.isUsable = true) (calls : List Call) :
    usable (calls ++ [call]) = usable calls ++ [call] := by
  simp [usable, h]

theorem sinceInfo_append_of_not {call : Call} (h : call.isUsable = false) (calls : List Call) :
    sinceInfo (calls ++ [call]) = sinceInfo calls := by
  rw [sinceInfo, usable_append_of_not h, sinceInfo]

/-- An info record starts afresh, and any other usable record is added at the end. -/
theorem sinceInfo_append_of {call : Call} (h : call.isUsable = true) (calls : List Call) :
    sinceInfo (calls ++ [call]) =
      if call.kind? = some .info then [] else sinceInfo calls ++ [call] := by
  rw [sinceInfo, usable_append_of h, List.rtakeWhile_concat, sinceInfo]
  by_cases hinfo : call.kind? = some .info <;> simp [hinfo]

theorem lastIn_append (table : Table) (id : Int) (calls : List Call) (call : Call) :
    lastIn table id (calls ++ [call]) =
      if call.idIn? table = some id then some call else lastIn table id calls := by
  by_cases h : call.idIn? table = some id <;> simp [lastIn, List.filter_append, h]

theorem lastOf_append (kind : Kind) (calls : List Call) (call : Call) :
    lastOf kind (calls ++ [call]) =
      if call.kind? = some kind then some call else lastOf kind calls := by
  by_cases h : call.kind? = some kind <;> simp [lastOf, List.filter_append, h]

/-- There is a last call with an id exactly if there is one at all. -/
theorem isSome_lastIn_iff {table : Table} {id : Int} {calls : List Call} :
    (lastIn table id calls).isSome ↔ ∃ call ∈ calls, call.idIn? table = some id := by
  rw [lastIn, List.getLast?_isSome, ne_eq, List.filter_eq_nil_iff]
  simp

/-- Without info records and without failures every call counts. -/
theorem sinceInfo_eq_self {calls : List Call} (husable : ∀ call ∈ calls, call.isUsable = true)
    (hinfo : ∀ call ∈ calls, call.kind? ≠ some .info) : sinceInfo calls = calls := by
  have hall : usable calls = calls := List.filter_eq_self.2 husable
  rw [sinceInfo, hall, List.rtakeWhile_eq_self_iff]
  simpa using hinfo

/-- **If no id comes twice**, the last call with an id is the one that has it. -/
theorem lastIn_eq_some_iff {calls : List Call} {call : Call} {table : Table} {id : Int}
    (h : RecordLine.HaveDistinctIds (calls.map Call.toRecordLine)) :
    lastIn table id calls = some call ↔ call ∈ calls ∧ call.idIn? table = some id := by
  rw [RecordLine.HaveDistinctIds, List.pairwise_map] at h
  induction calls using List.reverseRecOn with
  | nil => simp [lastIn]
  | append_singleton calls last ih =>
    obtain ⟨hcalls, -, hlast⟩ := List.pairwise_append.1 h
    rw [lastIn_append, List.mem_append, List.mem_singleton]
    by_cases hid : last.idIn? table = some id
    · rw [if_pos hid, Option.some.injEq]
      constructor
      · rintro rfl
        exact ⟨Or.inr rfl, hid⟩
      · rintro ⟨hmem | rfl, hcall⟩
        · exact absurd hid (hlast call hmem last (List.mem_singleton_self last) table id hcall)
        · rfl
    · rw [if_neg hid, ih hcalls]
      constructor
      · rintro ⟨hmem, hcall⟩
        exact ⟨Or.inl hmem, hcall⟩
      · rintro ⟨hmem | rfl, hcall⟩
        · exact ⟨hmem, hcall⟩
        · exact absurd hcall hid

end Call

namespace Store

open Call

/-- The store after a sequence of calls. -/
def afterAll (store : Store) (calls : List Call) : Store := calls.foldl after store

theorem afterAll_append (store : Store) (calls : List Call) (call : Call) :
    store.afterAll (calls ++ [call]) = (store.afterAll calls).after call := by
  simp [afterAll, List.foldl_append]

/-- **What is found after a sequence of calls**: the last usable record with the id since the last
info record, or what was found before, if the tables have not been emptied. -/
theorem find?_afterAll (store : Store) (calls : List Call) (table : Table) (id : Int) :
    (store.afterAll calls).find? table id =
      ((lastIn table id (sinceInfo calls)).map fun call => call.entry id).or
        (if (lastOf .info (usable calls)).isSome then none else store.find? table id) := by
  induction calls using List.reverseRecOn with
  | nil => rfl
  | append_singleton calls call ih =>
    rw [afterAll_append]
    by_cases husable : call.isUsable = true
    · rw [find?_after _ husable, ih, sinceInfo_append_of husable, usable_append_of husable,
        lastOf_append]
      by_cases hinfo : call.kind? = some .info
      · simp [hinfo, lastIn]
      · rw [if_neg hinfo, if_neg hinfo, if_neg hinfo, lastIn_append]
        by_cases hid : call.idIn? table = some id <;> simp [hid]
    · rw [Bool.not_eq_true] at husable
      rw [after_of_not_isUsable _ husable, ih, sinceInfo_append_of_not husable,
        usable_append_of_not husable]

/-- In particular, from nothing. -/
theorem find?_empty_afterAll (calls : List Call) (table : Table) (id : Int) :
    (empty.afterAll calls).find? table id =
      (lastIn table id (sinceInfo calls)).map fun call => call.entry id := by
  rw [find?_afterAll, find?_empty, ite_self, Option.or_none]

/-- An entry is found under its own id. -/
theorem id_of_find?_afterAll {calls : List Call} {table : Table} {id : Int} {entry : Entry table}
    (h : (empty.afterAll calls).find? table id = some entry) : entry.id = id := by
  rw [find?_empty_afterAll, Option.map_eq_some_iff] at h
  obtain ⟨call, -, rfl⟩ := h
  rfl

/-- A part of the store that records of one kind replace is that of the last such record. -/
theorem head_afterAll (part : Store → Fields) {kind : Kind}
    (hstep : ∀ store (call : Call), call.isUsable = true →
      part (store.after call) = if call.kind? = some kind then call.decoded else part store)
    (store : Store) (calls : List Call) :
    part (store.afterAll calls) =
      ((lastOf kind (usable calls)).map fun call => call.decoded).getD (part store) := by
  induction calls using List.reverseRecOn with
  | nil => rfl
  | append_singleton calls call ih =>
    rw [afterAll_append]
    by_cases husable : call.isUsable = true
    · rw [hstep _ _ husable, ih, usable_append_of husable, lastOf_append]
      by_cases hkind : call.kind? = some kind <;> simp [hkind]
    · rw [Bool.not_eq_true] at husable
      rw [after_of_not_isUsable _ husable, ih, usable_append_of_not husable]

theorem version_afterAll (store : Store) (calls : List Call) :
    (store.afterAll calls).version =
      ((lastOf .version (usable calls)).map fun call => call.decoded).getD store.version :=
  head_afterAll version (fun store _ => version_after store) store calls

theorem info_afterAll (store : Store) (calls : List Call) :
    (store.afterAll calls).info =
      ((lastOf .info (usable calls)).map fun call => call.decoded).getD store.info :=
  head_afterAll info (fun store _ => info_after store) store calls

/-! ### Counts -/

/-- A usable record of a discarded kind is counted, and no other call is. -/
theorem count_discarded_after (store : Store) {call : Call} (husable : call.isUsable = true)
    (kind : DiscardedKind) :
    (store.after call).count (.discarded kind) =
      store.count (.discarded kind) + if call.kind? = some (.discarded kind) then 1 else 0 := by
  simp only [count, discarded_after store husable]
  rcases hkind : call.kind? with _ | _ | _ | table | other
  · simp
  · simp
  · simp
  · simp
  · simp only [lookup_tally, Option.some.injEq, Kind.discarded.injEq, eq_comm]

theorem count_discarded_afterAll (store : Store) (calls : List Call) (kind : DiscardedKind) :
    (store.afterAll calls).count (.discarded kind) =
      store.count (.discarded kind) +
        (usable calls).countP fun call => call.kind? = some (.discarded kind) := by
  induction calls using List.reverseRecOn with
  | nil => rfl
  | append_singleton calls call ih =>
    rw [afterAll_append]
    by_cases husable : call.isUsable = true
    · rw [count_discarded_after _ husable, ih, usable_append_of husable, List.countP_append,
        List.countP_singleton, Nat.add_assoc]
      simp only [decide_eq_true_eq]
    · rw [Bool.not_eq_true] at husable
      rw [after_of_not_isUsable _ husable, ih, usable_append_of_not husable]

/-- A table is counted by the ids that are found in it. -/
theorem count_table_eq_card (store : Store) (table : Table) {ids : Finset Int}
    (h : ∀ id, id ∈ ids ↔ (store.find? table id).isSome) :
    store.count (.table table) = ids.card := by
  have hkeys : (store.entries table).keys.toFinset = ids := by
    ext id
    rw [h, List.mem_toFinset, Std.ExtTreeMap.mem_keys, find?,
      Std.ExtTreeMap.mem_iff_isSome_getElem?]
  rw [← hkeys, List.toFinset_card_of_nodup Std.ExtTreeMap.nodup_keys,
    Std.ExtTreeMap.length_keys, count]

theorem count_table_afterAll (calls : List Call) (table : Table) :
    (empty.afterAll calls).count (.table table) =
      ((sinceInfo calls).filterMap fun call => call.idIn? table).toFinset.card := by
  refine count_table_eq_card _ _ fun id => ?_
  rw [find?_empty_afterAll, Option.isSome_map, isSome_lastIn_iff, List.mem_toFinset,
    List.mem_filterMap]

theorem keys_tally (kind : DiscardedKind) (counts : List (DiscardedKind × Nat)) :
    (tally kind counts).map Prod.fst =
      if kind ∈ counts.map Prod.fst then counts.map Prod.fst
      else counts.map Prod.fst ++ [kind] := by
  induction counts with
  | nil => simp [tally]
  | cons pair counts ih =>
    obtain ⟨other, n⟩ := pair
    by_cases h : other = kind
    · simp [tally, h]
    · simp only [tally, if_neg h, List.map_cons, ih, List.mem_cons, Ne.symm h, false_or]
      split <;> simp

/-- Each discarded kind is counted in one place. -/
theorem nodup_discarded_afterAll (calls : List Call) :
    ((empty.afterAll calls).discarded.map Prod.fst).Nodup := by
  induction calls using List.reverseRecOn with
  | nil => exact List.nodup_nil
  | append_singleton calls call ih =>
    rw [afterAll_append]
    by_cases husable : call.isUsable = true
    · rw [discarded_after _ husable]
      split
      · rw [keys_tally]
        split
        · exact ih
        · rename_i hnew
          exact (List.perm_append_singleton _ _).nodup_iff.2 (List.nodup_cons.2 ⟨hnew, ih⟩)
      · exact ih
    · rw [Bool.not_eq_true] at husable
      rwa [after_of_not_isUsable _ husable]

/-! ### The summary -/

theorem discardedKind_name_injective : Function.Injective DiscardedKind.name := by
  intro a b h
  cases a <;> cases b <;> first | rfl | simp [DiscardedKind.name] at h

/-- The name of a discarded kind leads to its count. -/
theorem lookup_discarded_name (counts : List (DiscardedKind × Nat)) (kind : DiscardedKind) :
    (counts.map fun (kind, n) => (kind.name, n)).lookup kind.name = counts.lookup kind := by
  induction counts with
  | nil => rfl
  | cons pair counts ih =>
    obtain ⟨other, n⟩ := pair
    by_cases h : kind = other
    · simp [h]
    · have hname : kind.name ≠ other.name := fun heq => h (discardedKind_name_injective heq)
      simp [List.lookup_cons, beq_false_of_ne h, beq_false_of_ne hname, ih]

/-- Another name leads to none. -/
theorem lookup_discarded_eq_none (counts : List (DiscardedKind × Nat)) {name : String}
    (h : ∀ kind : DiscardedKind, name ≠ kind.name) :
    (counts.map fun (kind, n) => (kind.name, n)).lookup name = none := by
  rw [List.lookup_eq_none_iff]
  intro pair hpair
  obtain ⟨⟨kind, n⟩, -, rfl⟩ := List.mem_map.1 hpair
  simpa using h kind

/-- **The summary says what counting each kind says.** -/
theorem lookup_summary (store : Store) (kind : Kind) :
    (store.summary.lookup kind.name).getD 0 = store.count kind := by
  have hne : ∀ (name : String), name ∈ ["version", "info", "file", "scope", "seg", "span", "sym"] →
      ∀ kind : DiscardedKind, name ≠ kind.name := by
    intro name hname kind
    cases kind <;> rintro rfl <;> simp [DiscardedKind.name] at hname
  rw [summary, List.lookup_append]
  rcases kind with _ | _ | table | kind
  · rw [lookup_discarded_eq_none _ (hne _ (by simp [Kind.name]))]
    simp [Table.all, Table.name, Kind.name, List.lookup_cons, count]
  · rw [lookup_discarded_eq_none _ (hne _ (by simp [Kind.name]))]
    simp [Table.all, Table.name, Kind.name, List.lookup_cons, count]
  · rw [lookup_discarded_eq_none _ (hne _ (by cases table <;> simp [Kind.name, Table.name]))]
    cases table <;> simp [Table.all, Table.name, Kind.name, List.lookup_cons]
  · rw [Kind.name, lookup_discarded_name]
    cases kind <;>
      simp [Table.all, Table.name, DiscardedKind.name, List.lookup_cons, count]

/-- Each name in the summary is that of a kind. -/
theorem exists_name_of_mem_summary {store : Store} {name : String} {n : Nat}
    (h : (name, n) ∈ store.summary) : ∃ kind : Kind, name = kind.name := by
  rw [summary, List.mem_append, List.mem_map, List.mem_map] at h
  rcases h with ⟨table, -, h⟩ | ⟨⟨kind, m⟩, -, h⟩
  · exact ⟨.table table, (congrArg Prod.fst h).symm⟩
  · exact ⟨.discarded kind, (congrArg Prod.fst h).symm⟩

/-- No name stands twice in the summary of a store whose discarded kinds are counted once. -/
theorem nodup_names_summary {store : Store} (h : (store.discarded.map Prod.fst).Nodup) :
    (store.summary.map Prod.fst).Nodup := by
  have hdiscarded : (store.discarded.map fun pair => pair.1.name).Nodup := by
    have := h.map discardedKind_name_injective
    rwa [List.map_map] at this
  have htables : (Table.all.map Table.name).Nodup := by decide
  rw [summary, List.map_append, List.map_map, List.map_map, List.nodup_append]
  refine ⟨htables, hdiscarded, ?_⟩
  rintro name hname _ hother rfl
  obtain ⟨table, -, rfl⟩ := List.mem_map.1 hname
  obtain ⟨⟨kind, n⟩, -, hkind⟩ := List.mem_map.1 hother
  cases table <;> cases kind <;> simp [Table.name, DiscardedKind.name] at hkind

/-! ### All of it -/

/-- What a store holds that was empty before a sequence of calls. -/
structure Holds (store : Store) (calls : List Call) : Prop where
  /-- An entry is that of the last record with its id, and a missing one is an error that names the
  table and the id, if the id can be written at all. -/
  get : ∀ table id (referrer : Option String), store.get table id referrer =
    match lastIn table id (sinceInfo calls) with
    | some call => .ok (call.entry id)
    | none =>
      if Numeral.IsWritable id then .error (.error (.missing (some table) id referrer))
      else .error .digitLimit
  version : store.version =
    ((lastOf .version (usable calls)).map fun call => call.decoded).getD .empty
  info : store.info = ((lastOf .info (usable calls)).map fun call => call.decoded).getD .empty
  /-- A table is counted by the distinct ids of its records since the last info record. -/
  count_table : ∀ table, store.count (.table table) =
    ((sinceInfo calls).filterMap fun call => call.idIn? table).toFinset.card
  /-- A discarded kind is counted over the whole sequence. -/
  count_discarded : ∀ kind, store.count (.discarded kind) =
    (usable calls).countP fun call => call.kind? = some (.discarded kind)
  count_head : store.count .version = 0 ∧ store.count .info = 0
  /-- The summary has the count of each kind under its name, no name twice, and no other name. -/
  summary : ∀ kind : Kind, (store.summary.lookup kind.name).getD 0 = store.count kind
  summary_names : (store.summary.map Prod.fst).Nodup ∧
    ∀ name n, (name, n) ∈ store.summary → ∃ kind : Kind, name = kind.name

/-- **What a store holds is told by the sequence of records handed to it.**  A record is rejected
exactly if it is not usable, and then the store stays as it was. -/
theorem afterAll_holds (calls : List Call) :
    (∀ call, (∃ taken, ((empty.afterAll calls).takeIn call).outcome = .ok taken) ↔
      call.isUsable = true) ∧
    (∀ call failure, ((empty.afterAll calls).takeIn call).outcome = .error failure →
      empty.afterAll (calls ++ [call]) = empty.afterAll calls) ∧
    (empty.afterAll calls).Holds calls := by
  refine ⟨exists_outcome_takeIn_iff _, fun call failure h => ?_, ?_⟩
  · have hunusable : call.isUsable = false := by
      rw [← Bool.not_eq_true, ← exists_outcome_takeIn_iff (empty.afterAll calls), h]
      rintro ⟨taken, htaken⟩
      cases htaken
    rw [afterAll_append, after_of_not_isUsable _ hunusable]
  · exact {
      get := fun table id referrer => by
        rw [Store.get, find?_empty_afterAll]
        cases lastIn table id (sinceInfo calls) with
        | none =>
          simp [Failure.ofError, Error.isWritable_missing_iff, apply_ite]
        | some call => rfl
      version := version_afterAll empty calls
      info := info_afterAll empty calls
      count_table := count_table_afterAll calls
      count_discarded := fun kind => by
        rw [count_discarded_afterAll]
        exact Nat.zero_add _
      count_head := ⟨rfl, rfl⟩
      summary := lookup_summary _
      summary_names := ⟨nodup_names_summary (nodup_discarded_afterAll calls),
        fun _ _ => exists_name_of_mem_summary⟩ }

/-- An id with one digit more than can be written is looked up in vain, but not with the error that
says so. -/
theorem get_past_digitLimit :
    (empty.afterAll []).get .span (Nat.pow 10 Numeral.digitLimit : Nat) none = .error .digitLimit ∧
      Failure.digitLimit ≠
        .error (.missing (some .span) (Nat.pow 10 Numeral.digitLimit : Nat) none) := by
  have hpast := Numeral.not_isWritable_pow
  generalize ((Nat.pow 10 Numeral.digitLimit : Nat) : Int) = id at hpast ⊢
  refine ⟨?_, by simp⟩
  rw [Store.get, find?_empty_afterAll]
  simp [sinceInfo, usable, lastIn, Failure.ofError, Error.isWritable_missing_iff, hpast]

end Store
end DebugLabels
