import Mathlib.Data.Option.Basic
import Mathlib.Logic.Equiv.Basic
import DebugLabels.Proofs.Alike
import DebugLabels.Proofs.Renumbering

/-!
# Labels do not depend on how ids are numbered

A store and its renumbered copy are taken through the same steps.  Their outcomes are `Alike` if both
are values that belong together, or both are failures of one sort (`Failure.SameSort`): the words of
an error may show ids, its sort does not.

Each step has its lemma: fields (`alike_require`, `alike_number`, `alike_idList`), the least span of
a scope (`Scope.alike_lowestSpanId`), look-ups (`alike_get`), the links of a symbol (`alike_follow`)
and its label (`alike_label`).  The ids of both stores can be written, and an entry and its copy
stand on the same line, so an error has words in both or in neither.  The main statement is
`listing_renumbered`: both stores have a listing with the same lines, or both fail in the same
sort.
-/

namespace DebugLabels

/-! ### Failures of one sort -/

namespace Failure

/-- Two failures of one sort: errors of one category, or one failure twice. -/
inductive SameSort : Failure → Failure → Prop
  | refl (failure : Failure) : SameSort failure failure
  | error {e e' : Error} (h : e.category = e'.category) : SameSort (.error e) (.error e')

/-- Errors of one category are failures of one sort, if both have words or neither has. -/
theorem sameSort_ofError {e e' : Error} (hcategory : e.category = e'.category)
    (hwritable : e.IsWritable ↔ e'.IsWritable) : (ofError e).SameSort (ofError e') := by
  by_cases h : e.IsWritable
  · rw [ofError_of_isWritable h, ofError_of_isWritable (hwritable.1 h)]
    exact .error hcategory
  · rw [ofError_eq_digitLimit_iff.2 h, ofError_eq_digitLimit_iff.2 (mt hwritable.2 h)]
    exact .refl _

end Failure

/-! ### Entries -/

namespace Entry

variable {table target : Table} {entry : Entry table} {r : Renumbering} {key : String}

/-- An entry and its renumbered copy fail in one sort, if the id and the place are all that the
words show: both stand in the same place. -/
theorem sameSort_malformed (hid : Numeral.IsWritable entry.id) (hfits : r.Fits entry)
    {cause cause' : Malformation} (h : cause.numbers = [entry.id])
    (h' : cause'.numbers = [(r.entry entry).id]) :
    (entry.malformed cause).SameSort ((r.entry entry).malformed cause') := by
  have hplace : (Error.malformed cause entry.location).HasWritablePlace ↔
      (Error.malformed cause' (r.entry entry).location).HasWritablePlace := Iff.rfl
  refine Failure.sameSort_ofError rfl ?_
  rw [isWritable_malformed_iff hid h, hplace, isWritable_malformed_iff hfits.id h']

theorem alike_require (hid : Numeral.IsWritable entry.id) (hfits : r.Fits entry) (key : String) :
    Alike Failure.SameSort
      (fun raw raw' => r.FitsField table key raw ∧ raw' = r.value table key raw)
      (entry.require key) ((r.entry entry).require key) := by
  unfold require
  rw [r.get?_entry]
  cases hraw : entry.get? key with
  | none => exact .error (sameSort_malformed hid hfits rfl rfl)
  | some raw => exact .ok ⟨hfits.field hraw, rfl⟩

/-- A number is read alike if the new value of its field stands for the new number. -/
theorem alike_number {f : Int → Int} {radix : Radix} (hid : Numeral.IsWritable entry.id)
    (hfits : r.Fits entry) (h : ∀ raw, r.FitsField table key raw →
      radix.field? (r.value table key raw) = (radix.field? raw).map f) :
    Alike Failure.SameSort (fun n n' => n' = f n) (entry.number radix key)
      ((r.entry entry).number radix key) := by
  refine (alike_require hid hfits key).bind fun raw raw' _ _ hraw => ?_
  obtain ⟨hfield, rfl⟩ := hraw
  rw [h raw hfield]
  cases radix.field? raw with
  | none => exact .error (sameSort_malformed hid hfits rfl rfl)
  | some n => exact .ok rfl

/-- A number of a field that refers to nothing is the same. -/
theorem alike_number_of_reference?_eq_none {radix : Radix} (hid : Numeral.IsWritable entry.id)
    (hfits : r.Fits entry) (href : table.reference? key = none) :
    Alike Failure.SameSort (fun n n' => n' = n) (entry.number radix key)
      ((r.entry entry).number radix key) := by
  refine alike_number hid hfits fun raw _ => ?_
  rw [Renumbering.value, href, Option.map_id']

/-- A number of a field that refers to an entry is the new one. -/
theorem alike_number_of_reference?_eq_one (hid : Numeral.IsWritable entry.id)
    (hfits : r.Fits entry) (href : table.reference? key = some (.one target)) :
    Alike Failure.SameSort (fun n n' => n' = r.newId target n) (entry.number .decimal key)
      ((r.entry entry).number .decimal key) := by
  refine alike_number hid hfits fun raw hraw => ?_
  rw [Renumbering.FitsField, href] at hraw
  rw [Renumbering.value, href]
  exact Renumbering.decimal?_number hraw

theorem alike_decimalIfPresent {f : Int → Int}
    (h : Alike Failure.SameSort (fun n n' => n' = f n) (entry.number .decimal key)
      ((r.entry entry).number .decimal key)) :
    Alike Failure.SameSort (fun n n' => n' = n.map f) (entry.decimalIfPresent key)
      ((r.entry entry).decimalIfPresent key) := by
  have hhas : (r.entry entry).has key = entry.has key := by
    show ((r.entry entry).get? key).isSome = (entry.get? key).isSome
    rw [r.get?_entry, Option.isSome_map]
  unfold decimalIfPresent
  rw [hhas]
  split
  · exact h.map fun n n' hn => congrArg some hn
  · exact .ok rfl

/-- A list of ids is read as the list of the new ones. -/
theorem alike_idList (hid : Numeral.IsWritable entry.id) (hfits : r.Fits entry)
    (href : table.reference? key = some (.list target)) :
    Alike Failure.SameSort (fun ids ids' => ids' = ids.map (r.newId target)) (entry.idList key)
      ((r.entry entry).idList key) := by
  refine (alike_require hid hfits key).bind fun raw raw' _ _ hraw => ?_
  obtain ⟨hfield, rfl⟩ := hraw
  rw [Renumbering.FitsField, href] at hfield
  rw [Renumbering.value, href, Renumbering.idList?_numbers hfield]
  cases idList? raw with
  | none => exact .error (sameSort_malformed hid hfits rfl rfl)
  | some ids => exact .ok rfl

end Entry

/-- The least span of a scope is the new one, for spans keep their order. -/
theorem Scope.alike_lowestSpanId {scope : Scope} {r : Renumbering}
    (hid : Numeral.IsWritable scope.id) (hfits : r.Fits scope) :
    Alike Failure.SameSort (fun n n' => n' = r.newId .span n) (lowestSpanId scope)
      (lowestSpanId (r.entry scope)) := by
  have hlist : Alike Failure.SameSort
      (fun ids ids' => ids ≠ [] ∧ ids' = ids.map (r.newId .span))
      (spanIds scope) (spanIds (r.entry scope)) := by
    refine (Entry.alike_idList hid hfits rfl).bind fun ids ids' _ _ hids => ?_
    subst hids
    cases ids with
    | nil => exact .error (Entry.sameSort_malformed hid hfits rfl rfl)
    | cons id ids => exact .ok ⟨List.cons_ne_nil id ids, rfl⟩
  have hmono : StrictMono (r.ofTable .span) := r.strictMono_span
  refine hlist.map fun ids ids' hids => ?_
  rw [hids.2]
  exact Renumbering.least_map_newId hmono hids.1

namespace Store

variable {store : Store} {r : Renumbering} {settings : Settings} {symbol : Symbol}

/-! ### The links of a symbol -/

/-- A look-up under a new id finds the renumbered entry, or fails as the old one did. -/
theorem alike_get (store : Store) (r : Renumbering) {table : Table} (htable : table ≠ .file)
    {id : Int} (hid : Numeral.IsWritable id) (hid' : Numeral.IsWritable (r.newId table id))
    {mention mention' : Mention} (h : mention.IsWritable) (h' : mention'.IsWritable) :
    Alike Failure.SameSort (fun entry entry' => entry' = r.entry entry)
      (store.get table id (some mention))
      ((store.renumbered r).get table (r.newId table id) (some mention')) := by
  unfold get
  rw [find?_renumbered store r htable]
  cases store.find? table id with
  | none =>
    refine .error (Failure.sameSort_ofError rfl (iff_of_true ?_ ?_))
    · simp [Error.isWritable_missing_iff, hid, h]
    · simp [Error.isWritable_missing_iff, hid', h']
  | some entry => exact .ok rfl

/-- The scope that a symbol names. -/
theorem alike_scopeId (hid : Numeral.IsWritable symbol.id) (hfits : r.Fits symbol) :
    Alike Failure.SameSort (fun n n' => n' = n.map (r.newId .scope)) (Symbol.scopeId symbol)
      (Symbol.scopeId (r.entry symbol)) :=
  Entry.alike_decimalIfPresent (Entry.alike_number_of_reference?_eq_one hid hfits rfl)

/-- The parent that a symbol names. -/
theorem alike_parentId (hid : Numeral.IsWritable symbol.id) (hfits : r.Fits symbol) :
    Alike Failure.SameSort (fun n n' => n' = n.map (r.newId .symbol)) (Symbol.parentId symbol)
      (Symbol.parentId (r.entry symbol)) :=
  Entry.alike_decimalIfPresent (Entry.alike_number_of_reference?_eq_one hid hfits rfl)

/-- A symbol without a scope fails in one sort, whatever the reason, if that can be worded. -/
theorem sameSort_unresolvedScope (hid : Numeral.IsWritable symbol.id) (hfits : r.Fits symbol)
    {gap gap' : ScopeGap} (h : ∀ n ∈ gap.numbers, Numeral.IsWritable n)
    (h' : ∀ n ∈ gap'.numbers, Numeral.IsWritable n) :
    (unresolvedScope symbol gap).SameSort (unresolvedScope (r.entry symbol) gap') :=
  Failure.sameSort_ofError rfl (iff_of_true
    (Error.isWritable_unresolvedScope_iff.2 ⟨hid, h⟩)
    (Error.isWritable_unresolvedScope_iff.2 ⟨hfits.id, h'⟩))

/-- The scope of a symbol, its own or that of its parent, is the new one. -/
theorem alike_scopeIdOf (hstore : store.HasWritableIds) (hall : r.FitsAll store)
    (hid : Numeral.IsWritable symbol.id) (hfits : r.Fits symbol) :
    Alike Failure.SameSort (fun n n' => n' = r.newId .scope n) (store.scopeIdOf symbol)
      ((store.renumbered r).scopeIdOf (r.entry symbol)) := by
  refine (alike_scopeId hid hfits).bind fun scopeId _ _ _ h => ?_
  subst h
  cases scopeId with
  | some scopeId => exact .ok rfl
  | none =>
    refine (alike_parentId hid hfits).bind fun parentId _ hread hread' h => ?_
    subst h
    cases parentId with
    | none => exact .error (sameSort_unresolvedScope hid hfits (by simp [ScopeGap.numbers])
        (by simp [ScopeGap.numbers]))
    | some parentId =>
      have hwritable : Numeral.IsWritable parentId :=
        Entry.isWritable_of_reads (Entry.decimalIfPresent_eq_ok_some_iff.1 hread)
      have hwritable' : Numeral.IsWritable (r.newId .symbol parentId) :=
        Entry.isWritable_of_reads (Entry.decimalIfPresent_eq_ok_some_iff.1 hread')
      refine (alike_get store r (by decide) hwritable hwritable' (Symbol.isWritable_mention hid)
        (Symbol.isWritable_mention hfits.id)).bind fun parent _ hfound _ h => ?_
      subst h
      have hparent := get_eq_ok_iff.1 hfound
      have hparentId := hstore _ _ _ hparent
      have hparentFits := hall _ _ _ hparent
      refine (alike_scopeId hparentId hparentFits).bind fun scopeId _ _ _ h => ?_
      subst h
      cases scopeId with
      | some scopeId => exact .ok rfl
      | none => exact .error (sameSort_unresolvedScope hid hfits
          (Symbol.isWritable_mention hparentId) (Symbol.isWritable_mention hparentFits.id))

/-- The start and the offset of a segment are the same. -/
theorem alike_placeOf {segment : Segment} (hid : Numeral.IsWritable segment.id)
    (hfits : r.Fits segment) :
    Alike Failure.SameSort (fun place place' => place' = place) (placeOf segment)
      (placeOf (r.entry segment)) := by
  have himage : Segment.isInImage (r.entry segment) = Segment.isInImage segment := by
    show ((r.entry segment).get? "ooffs").isSome = (segment.get? "ooffs").isSome
    rw [r.get?_entry, Option.isSome_map]
  unfold placeOf
  rw [himage]
  split
  · refine (Entry.alike_number_of_reference?_eq_none hid hfits rfl).bind fun base _ _ _ h => ?_
    subst h
    refine (Entry.alike_number_of_reference?_eq_none hid hfits rfl).bind fun offset _ _ _ h => ?_
    subst h
    exact .ok rfl
  · exact .ok rfl

/-- **The links of a symbol** lead to the same place. -/
theorem alike_follow (hstore : store.HasWritableIds) (hall : r.FitsAll store)
    (hid : Numeral.IsWritable symbol.id) (hfits : r.Fits symbol) :
    Alike Failure.SameSort (fun chain chain' => chain'.place = chain.place ∧
        Numeral.IsWritable chain.segmentId ∧ Numeral.IsWritable chain'.segmentId)
      (store.follow symbol) ((store.renumbered r).follow (r.entry symbol)) := by
  refine (alike_scopeIdOf hstore hall hid hfits).bind fun scopeId _ hread hread' h => ?_
  subst h
  have hscopeId := isWritable_of_hasScope (scopeIdOf_eq_ok_iff.1 hread)
  have hscopeId' := isWritable_of_hasScope (scopeIdOf_eq_ok_iff.1 hread')
  refine (alike_get store r (by decide) hscopeId hscopeId' (Symbol.isWritable_mention hid)
    (Symbol.isWritable_mention hfits.id)).bind fun scope _ hfound _ h => ?_
  subst h
  have hscope := get_eq_ok_iff.1 hfound
  refine (Scope.alike_lowestSpanId (hstore _ _ _ hscope) (hall _ _ _ hscope)).bind
    fun spanId _ hread hread' h => ?_
  subst h
  have hspanId := Scope.isWritable_of_hasLeastSpan (Scope.lowestSpanId_eq_ok_iff.1 hread)
  have hspanId' := Scope.isWritable_of_hasLeastSpan (Scope.lowestSpanId_eq_ok_iff.1 hread')
  refine (alike_get store r (by decide) hspanId hspanId' (Mention.isWritable_entry_iff.2 hscopeId)
    (Mention.isWritable_entry_iff.2 hscopeId')).bind fun span _ hfound _ h => ?_
  subst h
  have hspan := get_eq_ok_iff.1 hfound
  refine (Entry.alike_number_of_reference?_eq_one (hstore _ _ _ hspan) (hall _ _ _ hspan)
    rfl).bind fun segmentId _ hread hread' h => ?_
  subst h
  have hwritable := Entry.isWritable_of_reads (Entry.number_eq_ok_iff_reads.1 hread)
  have hwritable' := Entry.isWritable_of_reads (Entry.number_eq_ok_iff_reads.1 hread')
  refine (alike_get store r (by decide) hwritable hwritable'
    (Mention.isWritable_entry_iff.2 hspanId)
    (Mention.isWritable_entry_iff.2 hspanId')).bind fun segment _ hfound _ h => ?_
  subst h
  have hsegment := get_eq_ok_iff.1 hfound
  refine (alike_placeOf (hstore _ _ _ hsegment) (hall _ _ _ hsegment)).bind fun place _ _ _ h => ?_
  subst h
  exact .ok ⟨rfl, hwritable, hwritable'⟩

/-! ### Labels -/

/-- Two placements at the same place, of segments whose ids can be written. -/
def SamePlace (placement placement' : Placement) : Prop :=
  placement'.base = placement.base ∧ placement'.offset = placement.offset ∧
    Numeral.IsWritable placement.segmentId ∧ Numeral.IsWritable placement'.segmentId

theorem alike_place (hstore : store.HasWritableIds) (hall : r.FitsAll store)
    (hid : Numeral.IsWritable symbol.id) (hfits : r.Fits symbol) :
    Alike Failure.SameSort (Option.Rel SamePlace) (store.place symbol).outcome
      ((store.renumbered r).place (r.entry symbol)).outcome := by
  rw [outcome_place, outcome_place]
  refine (alike_follow hstore hall hid hfits).map fun chain chain' h => ?_
  obtain ⟨hplace, hwritable, hwritable'⟩ := h
  unfold Chain.placement?
  rw [hplace]
  cases chain.place with
  | none => exact .none
  | some place => exact .some ⟨rfl, rfl, hwritable, hwritable'⟩

/-- The offset of a label is the same, and one that is outside the image fails in one sort. -/
theorem alike_listedOffset (symbol symbol' : Symbol) (address : Int)
    {placement placement' : Option Placement} (h : Option.Rel SamePlace placement placement') :
    Alike Failure.SameSort (fun n n' => n' = n) (listedOffset settings symbol address placement)
      (listedOffset settings symbol' address placement') := by
  cases h with
  | none => exact .error (Failure.sameSort_ofError rfl Iff.rfl)
  | @some placement placement' h =>
    obtain ⟨hbase, hoffset, hwritable, hwritable'⟩ := h
    have himage : placement'.toImage address = placement.toImage address := by
      rw [Placement.toImage, Placement.toImage, hbase, hoffset]
    unfold listedOffset
    simp only [himage]
    split
    · refine .error (Failure.sameSort_ofError rfl ?_)
      simp only [Error.IsWritable, Error.numbers, ImageGap.numbers, List.forall_mem_cons,
        hwritable, hwritable']
    · exact .ok rfl

theorem alike_listedValue (hstore : store.HasWritableIds) (hall : r.FitsAll store)
    (hid : Numeral.IsWritable symbol.id) (hfits : r.Fits symbol) (address : Int) :
    Alike Failure.SameSort (fun n n' => n' = n) (store.listedValue settings symbol address).outcome
      ((store.renumbered r).listedValue settings (r.entry symbol) address).outcome := by
  unfold listedValue
  split
  · rw [Logged.outcome_bind, Logged.outcome_bind]
    exact (alike_place hstore hall hid hfits).bind fun placement placement' _ _ h =>
      alike_listedOffset symbol (r.entry symbol) address h
  · exact .ok rfl

theorem alike_lastAddress (hid : Numeral.IsWritable symbol.id) (hfits : r.Fits symbol)
    (value : Int) :
    Alike Failure.SameSort (fun last last' => last' = last) (lastAddress settings symbol value)
      (lastAddress settings (r.entry symbol) value) := by
  have hsize : Alike Failure.SameSort (fun n n' => n' = n.map fun n => n) (Symbol.size symbol)
      (Symbol.size (r.entry symbol)) :=
    Entry.alike_decimalIfPresent (Entry.alike_number_of_reference?_eq_none hid hfits rfl)
  unfold lastAddress
  split
  · refine hsize.bind fun size size' _ _ h => ?_
    subst h
    cases size <;> exact .ok rfl
  · exact .ok rfl

/-- **The label of a symbol is the same** but for the id of the symbol. -/
theorem alike_label (hstore : store.HasWritableIds) (hall : r.FitsAll store)
    (hid : Numeral.IsWritable symbol.id) (hfits : r.Fits symbol) :
    Alike Failure.SameSort (Option.Rel Label.SameButId) (store.label settings symbol).outcome
      ((store.renumbered r).label settings (r.entry symbol)).outcome := by
  have hplain : ∀ key, Table.symbol.reference? key = none →
      (r.entry symbol).get? key = symbol.get? key := fun key => r.get?_entry_of_reference?_eq_none
  have hlabel : Symbol.isLabel (r.entry symbol) = Symbol.isLabel symbol := by
    rw [Symbol.isLabel, Symbol.isLabel, Symbol.type, Symbol.type, hplain "type" rfl]
  have hname : Symbol.name (r.entry symbol) = Symbol.name symbol := by
    rw [Symbol.name, Symbol.name, hplain "name" rfl]
  have hcomment : Symbol.comment (r.entry symbol) = Symbol.comment symbol := hplain "comment" rfl
  unfold label
  rw [hlabel]
  split
  · simp only [Logged.outcome_bind, Logged.outcome_liftM]
    refine (Entry.alike_number_of_reference?_eq_none hid hfits rfl).bind fun _ address _ _ h => ?_
    subst h
    refine (alike_listedValue hstore hall hid hfits address).bind fun _ value _ _ h => ?_
    subst h
    refine (alike_lastAddress hid hfits value).bind fun last _ _ _ h => ?_
    subst h
    rw [hname, hcomment]
    exact .ok (.some rfl)
  · exact .ok .none

/-- From one symbol to a list: the same labels but for the ids, or the same first failure. -/
theorem alike_labelsOf (hstore : store.HasWritableIds) (hall : r.FitsAll store)
    {symbols : List Symbol}
    (hsymbols : ∀ symbol ∈ symbols, Numeral.IsWritable symbol.id ∧ r.Fits symbol) :
    Alike Failure.SameSort (List.Forall₂ Label.SameButId) (store.labelsOf settings symbols).outcome
      ((store.renumbered r).labelsOf settings (symbols.map r.entry)).outcome := by
  induction symbols with
  | nil => exact .ok .nil
  | cons symbol symbols ih =>
    obtain ⟨⟨hid, hfits⟩, hrest⟩ := List.forall_mem_cons.1 hsymbols
    simp only [List.map_cons, labelsOf_cons, Logged.outcome_bind]
    refine (alike_label hstore hall hid hfits).bind fun label label' _ _ hlabel => ?_
    refine (ih hrest).bind fun labels labels' _ _ hlabels => ?_
    cases hlabel with
    | none => exact .ok hlabels
    | some hlabel => exact .ok (.cons hlabel hlabels)

/-- **A listing does not depend on how ids are numbered.**  Whatever records a store was handed, the
renumbered store has a listing with the same lines, or both fail in the same sort. -/
theorem listing_renumbered (calls : List Call) (settings : Settings) {r : Renumbering}
    (hall : r.FitsAll (empty.afterAll calls)) :
    Alike Failure.SameSort Listing.SameLines ((empty.afterAll calls).listing settings).outcome
      (((empty.afterAll calls).renumbered r).listing settings).outcome := by
  generalize hcalls : empty.afterAll calls = store at hall
  have hstore : store.HasWritableIds := hcalls ▸ hasWritableIds_afterAll calls
  have hown : store.HasOwnIds := hcalls ▸ hasOwnIds_afterAll calls
  have hsymbols := symbols_renumbered hown r
  have hlabels : Alike Failure.SameSort (List.Forall₂ Label.SameButId)
      (store.labelsOf settings store.symbols).outcome
      ((store.renumbered r).labelsOf settings (store.renumbered r).symbols).outcome := by
    rw [hsymbols]
    refine alike_labelsOf hstore hall fun symbol hsymbol => ?_
    obtain ⟨id, hid⟩ := mem_symbols.1 hsymbol
    exact ⟨hstore _ _ _ hid, hall _ _ _ hid⟩
  simp only [Store.listing, labels, Logged.outcome_bind]
  refine hlabels.bind fun labels labels' _ _ h => .ok ?_
  exact Listing.sameLines_of_forall₂ h (by
    rw [count_symbol, count_symbol, hsymbols, List.length_map])

/-- Symbols, spans and segments move up, and the first two scopes change places. -/
def moved : Renumbering where
  symbol n := n + 3
  span n := 2 * n + 1
  scope := Equiv.swap 0 1
  segment n := n + 7
  strictMono_symbol _ _ h := Nat.add_lt_add_right h 3
  strictMono_span _ _ h := by dsimp only; omega
  injective_scope := (Equiv.swap 0 1).injective
  injective_segment _ _ h := Nat.add_right_cancel h

/-- The records of a PRG-ROM label that lies in the scope of its parent. -/
def childLabel : List Call :=
  [⟨⟨"seg", "id=0,start=8000,ooffs=16"⟩, none⟩, ⟨⟨"span", "id=1,seg=0"⟩, none⟩,
    ⟨⟨"scope", "id=0,span=2+1"⟩, none⟩, ⟨⟨"sym", "id=0,scope=0"⟩, none⟩,
    ⟨⟨"sym", "id=1,name=a,type=lab,val=8001,parent=0"⟩, none⟩]

/-- A PRG-ROM label keeps its line. -/
theorem listing_renumbered_moved :
    moved.FitsAll (empty.afterAll childLabel) ∧
    ∃ listing other, ((empty.afterAll childLabel).listing {}).outcome = .ok listing ∧
      (((empty.afterAll childLabel).renumbered moved).listing {}).outcome = .ok other ∧
      listing.lines = ["P:1:a"] ∧ listing.SameLines other := by
  have hall : moved.FitsAll (empty.afterAll childLabel) :=
    Renumbering.fitsAll_afterAll (by decide +kernel)
  refine ⟨hall, ?_⟩
  obtain ⟨listing, hlisting, hlines⟩ : ∃ listing,
      ((empty.afterAll childLabel).listing {}).outcome = .ok listing ∧
        listing.lines = ["P:1:a"] := ⟨_, rfl, by decide⟩
  have halike := listing_renumbered childLabel {} hall
  rw [hlisting] at halike
  generalize hother : (((empty.afterAll childLabel).renumbered moved).listing {}).outcome = outcome
    at halike
  cases halike with
  | ok hsame => exact ⟨listing, _, hlisting, rfl, hlines, hsame⟩

end Store
end DebugLabels
