import DebugLabels.Listing
import DebugLabels.Proofs.Alike
import DebugLabels.Proofs.Failures

/-!
# Line numbers do not matter to a listing

An entry keeps the line on which its record stood, for errors to point at. Nothing else depends on
it. Two entries are twins if they have the same id and the same fields and fail alike
(`Entry.IsTwin`); a step that reads an entry has the same value on its twin, or fails alike, and so
has every step on the way from a symbol to its label and from the labels to the listing
(`Store.HasTwins.alike_listing`).

Entries that agree up to the line number are twins, for failures that are the same but for the
number of the line that they point at (`Failure.SameButLine`): as they are worded, whatever the
lines (`Entry.isTwin_ofError`), and as errors, if the lines can be written (`Entry.isTwin_error`).
So stores with one version and the same look-ups, up to line numbers, have the same listing, or they
fail with `SameButLine` failures (`alike_listing_of_unnumbered`).
-/

namespace DebugLabels

/-- The place without the line number. -/
def Location.unnumbered (location : Location) : Location := { location with line := 0 }

/-- The entry without its line number. -/
def Entry.unnumbered {table : Table} (entry : Entry table) : Entry table :=
  { entry with location := entry.location.map Location.unnumbered }

/-- Two failures are the same but for the number of the line that they point at, where `failure`
says how an error fails. -/
inductive Failure.SameButLine (failure : Error → Failure) : Failure → Failure → Prop
  | same (f : Failure) : SameButLine failure f f
  | record (fault : RecordFault) (file : String) (line line' : Int) (hint : Option String) :
      SameButLine failure (failure (.record fault (some ⟨file, line⟩) hint))
        (failure (.record fault (some ⟨file, line'⟩) hint))

instance (failure : Error → Failure) : Std.Refl (Failure.SameButLine failure) := ⟨.same⟩

/-! ### Twins -/

section Twins

variable {S : Failure → Failure → Prop}

/-- Two entries have the same id and the same fields, and fail alike. -/
structure Entry.IsTwin (S : Failure → Failure → Prop) {table : Table} (entry twin : Entry table) :
    Prop where
  id : twin.id = entry.id
  fields : twin.fields = entry.fields
  malformed : ∀ cause, S (entry.malformed cause) (twin.malformed cause)

namespace Entry.IsTwin

variable {table : Table} {entry twin : Entry table} {key : String}

theorem get? (h : entry.IsTwin S twin) (key : String) : twin.get? key = entry.get? key := by
  rw [Entry.get?, Entry.get?, h.fields]

theorem has (h : entry.IsTwin S twin) (key : String) : twin.has key = entry.has key := by
  rw [Entry.has, Entry.has, h.fields]

theorem alike_require (h : entry.IsTwin S twin) (key : String) :
    Alike S Eq (entry.require key) (twin.require key) := by
  unfold require
  rw [h.get?, h.id]
  cases entry.get? key with
  | none => exact .error (h.malformed _)
  | some raw => exact .ok rfl

theorem alike_number (h : entry.IsTwin S twin) (radix : Radix) (key : String) :
    Alike S Eq (entry.number radix key) (twin.number radix key) := by
  unfold number
  rw [h.id]
  refine (h.alike_require key).bind_eq fun raw _ _ => ?_
  cases radix.field? raw with
  | none => exact .error (h.malformed _)
  | some n => exact .ok rfl

theorem alike_idList (h : entry.IsTwin S twin) (key : String) :
    Alike S Eq (entry.idList key) (twin.idList key) := by
  unfold idList
  rw [h.id]
  refine (h.alike_require key).bind_eq fun raw _ _ => ?_
  cases idList? raw with
  | none => exact .error (h.malformed _)
  | some ids => exact .ok rfl

theorem alike_decimalIfPresent (h : entry.IsTwin S twin) (key : String) :
    Alike S Eq (entry.decimalIfPresent key) (twin.decimalIfPresent key) := by
  unfold decimalIfPresent
  rw [h.has]
  split
  · exact (h.alike_number .decimal key).map_eq some
  · exact .ok rfl

theorem alike_lowestSpanId {scope twin : Scope} (h : Entry.IsTwin S scope twin) :
    Alike S Eq (Scope.lowestSpanId scope) (Scope.lowestSpanId twin) := by
  refine Alike.map_eq Scope.least ((h.alike_idList "span").bind_eq fun ids _ _ => ?_)
  dsimp only
  split
  · rw [h.id]
    exact .error (h.malformed _)
  · exact .ok rfl

theorem mention_eq {symbol twin : Symbol} (h : Entry.IsTwin S symbol twin) :
    Symbol.mention twin = Symbol.mention symbol := by
  rw [Symbol.mention, Symbol.mention, Symbol.name, Symbol.name, h.get?, h.id]

theorem unresolvedScope_eq {symbol twin : Symbol} (h : Entry.IsTwin S symbol twin)
    (gap : ScopeGap) : Store.unresolvedScope twin gap = Store.unresolvedScope symbol gap := by
  rw [Store.unresolvedScope, Store.unresolvedScope, Symbol.name, Symbol.name, h.get?, h.id]

theorem alike_placeOf {segment twin : Segment} (h : Entry.IsTwin S segment twin) :
    Alike S Eq (Store.placeOf segment) (Store.placeOf twin) := by
  unfold Store.placeOf Segment.isInImage
  rw [h.has]
  split
  · refine (h.alike_number .hexadecimal "start").bind_eq fun base _ _ => ?_
    exact (h.alike_number .decimal "ooffs").bind_eq fun offset _ _ => .ok rfl
  · exact .ok rfl

theorem alike_lastAddress {symbol twin : Symbol} (h : Entry.IsTwin S symbol twin)
    (settings : Settings) (value : Int) :
    Alike S Eq (Store.lastAddress settings symbol value)
      (Store.lastAddress settings twin value) := by
  unfold Store.lastAddress
  split
  · refine (h.alike_decimalIfPresent "size").bind_eq fun size _ _ => ?_
    cases size <;> exact .ok rfl
  · exact .ok rfl

theorem alike_listedOffset [Std.Refl S] {symbol twin : Symbol} (h : Entry.IsTwin S symbol twin)
    (settings : Settings) (address : Int) (placement : Option Placement) :
    Alike S Eq (Store.listedOffset settings symbol address placement)
      (Store.listedOffset settings twin address placement) := by
  have houtside : ∀ gap,
      Store.outsideImage twin address gap = Store.outsideImage symbol address gap := by
    intro gap
    rw [Store.outsideImage, Store.outsideImage, Symbol.name, Symbol.name, h.get?]
  cases placement with
  | none =>
    dsimp only [Store.listedOffset]
    rw [houtside]
    exact .error (refl_of S _)
  | some placement =>
    dsimp only [Store.listedOffset]
    rw [houtside]
    split
    · exact .error (refl_of S _)
    · exact .ok rfl

end Entry.IsTwin

/-- Look-ups in two stores find twins, or nothing. -/
def Store.HasTwins (S : Failure → Failure → Prop) (store other : Store) : Prop :=
  ∀ table id, Option.Rel (Entry.IsTwin S) (store.find? table id) (other.find? table id)

namespace Store.HasTwins

variable [Std.Refl S] {store other : Store} {symbol twin : Symbol}

theorem alike_get (h : store.HasTwins S other) (table : Table) (id : Int)
    (referrer : Option Mention) :
    Alike S (Entry.IsTwin S) (store.get table id referrer) (other.get table id referrer) := by
  have hfind := h table id
  unfold get
  generalize store.find? table id = found, other.find? table id = found' at hfind ⊢
  cases hfind with
  | none => exact .error (refl_of S _)
  | some htwin => exact .ok htwin

theorem alike_scopeIdOf (h : store.HasTwins S other) (hsymbol : Entry.IsTwin S symbol twin) :
    Alike S Eq (store.scopeIdOf symbol) (other.scopeIdOf twin) := by
  unfold scopeIdOf
  refine (hsymbol.alike_decimalIfPresent "scope").bind_eq fun scopeId _ _ => ?_
  cases scopeId with
  | some scopeId => exact .ok rfl
  | none =>
    refine (hsymbol.alike_decimalIfPresent "parent").bind_eq fun parentId _ _ => ?_
    cases parentId with
    | none =>
      dsimp only
      rw [hsymbol.unresolvedScope_eq]
      exact .error (refl_of S _)
    | some parentId =>
      dsimp only
      rw [hsymbol.mention_eq]
      refine (h.alike_get _ _ _).bind fun parent parent' _ _ hparent => ?_
      refine (hparent.alike_decimalIfPresent "scope").bind_eq fun scopeId _ _ => ?_
      cases scopeId with
      | some scopeId => exact .ok rfl
      | none =>
        dsimp only
        rw [hsymbol.unresolvedScope_eq, hparent.mention_eq]
        exact .error (refl_of S _)

/-- **The links of twins** lead to one place. -/
theorem alike_follow (h : store.HasTwins S other) (hsymbol : Entry.IsTwin S symbol twin) :
    Alike S Eq (store.follow symbol) (other.follow twin) := by
  unfold follow
  rw [hsymbol.mention_eq]
  refine (h.alike_scopeIdOf hsymbol).bind_eq fun scopeId _ _ => ?_
  refine (h.alike_get _ _ _).bind fun scope scope' _ _ hscope => ?_
  refine hscope.alike_lowestSpanId.bind_eq fun spanId _ _ => ?_
  refine (h.alike_get _ _ _).bind fun span span' _ _ hspan => ?_
  refine (hspan.alike_number .decimal "seg").bind_eq fun segmentId _ _ => ?_
  refine (h.alike_get _ _ _).bind fun segment segment' _ _ hsegment => ?_
  exact (hsegment.alike_placeOf).bind_eq fun place _ _ => .ok rfl

theorem alike_listedValue (h : store.HasTwins S other) (settings : Settings)
    (hsymbol : Entry.IsTwin S symbol twin) (address : Int) :
    Alike S Eq (store.listedValue settings symbol address).outcome
      (other.listedValue settings twin address).outcome := by
  unfold listedValue
  split
  · rw [Logged.outcome_bind, Logged.outcome_bind, outcome_place, outcome_place]
    exact ((h.alike_follow hsymbol).map_eq Chain.placement?).bind_eq fun placement _ _ =>
      hsymbol.alike_listedOffset settings address placement
  · exact .ok rfl

/-- **The label of a twin is the same**, or both fail alike. -/
theorem alike_label (h : store.HasTwins S other) (settings : Settings)
    (hsymbol : Entry.IsTwin S symbol twin) :
    Alike S Eq (store.label settings symbol).outcome (other.label settings twin).outcome := by
  unfold label Symbol.isLabel Symbol.type Symbol.name Symbol.comment
  rw [hsymbol.get?, hsymbol.get?, hsymbol.get?, hsymbol.id]
  split
  · simp only [Logged.outcome_bind, Logged.outcome_liftM]
    refine (hsymbol.alike_number .hexadecimal "val").bind_eq fun address _ _ => ?_
    refine (h.alike_listedValue settings hsymbol address).bind_eq fun value _ _ => ?_
    exact (hsymbol.alike_lastAddress settings value).bind_eq fun last _ _ => .ok rfl
  · exact .ok rfl

theorem alike_labelsOf (h : store.HasTwins S other) (settings : Settings)
    {symbols twins : List Symbol} (hsymbols : List.Forall₂ (Entry.IsTwin S) symbols twins) :
    Alike S Eq (store.labelsOf settings symbols).outcome
      (other.labelsOf settings twins).outcome := by
  induction hsymbols with
  | nil => exact .ok rfl
  | cons hsymbol _ ih =>
    simp only [labelsOf_cons, Logged.outcome_bind]
    refine (h.alike_label settings hsymbol).bind_eq fun label _ _ => ?_
    exact ih.bind_eq fun labels _ _ => .ok rfl

/-- **Stores with twins have one listing**, or they fail alike. -/
theorem alike_listing (h : store.HasTwins S other) (hversion : other.version = store.version)
    (hsymbols : List.Forall₂ (Entry.IsTwin S) store.symbols other.symbols)
    (settings : Settings) :
    Alike S Eq (store.listing settings).outcome (other.listing settings).outcome := by
  have hcount : ∀ store : Store, store.count (.table .symbol) = store.symbols.length := by
    intro store
    rw [symbols, List.length_map, Std.ExtTreeMap.length_toList]
    rfl
  unfold listing labels banner
  rw [hcount, hcount, hsymbols.length_eq, hversion]
  simp only [Logged.outcome_bind]
  exact (h.alike_labelsOf settings hsymbols).bind_eq fun labels _ _ => .ok rfl

end Store.HasTwins
end Twins

/-! ### Entries that agree up to the line number -/

namespace Entry

variable {table : Table} {entry other : Entry table}

theorem eq_of_unnumbered_eq (h : entry.unnumbered = other.unnumbered) :
    other.id = entry.id ∧ other.fields = entry.fields ∧ (other.location = entry.location ∨
      ∃ file line line', entry.location = some ⟨file, line⟩ ∧
        other.location = some ⟨file, line'⟩) := by
  obtain ⟨id, fields, location⟩ := entry
  obtain ⟨id', fields', location'⟩ := other
  obtain ⟨rfl, rfl, hlocation⟩ := Entry.mk.inj h
  refine ⟨rfl, rfl, ?_⟩
  rcases location with _ | ⟨file, line⟩ <;> rcases location' with _ | ⟨file', line'⟩
  · exact Or.inl rfl
  · cases hlocation
  · cases hlocation
  · obtain rfl : file = file' := congrArg Location.file (Option.some.inj hlocation)
    exact Or.inr ⟨file, line, line', rfl, rfl⟩

/-- **Entries that agree up to the line number are twins.** -/
theorem isTwin_ofError (h : entry.unnumbered = other.unnumbered) :
    entry.IsTwin (Failure.SameButLine .ofError) other := by
  obtain ⟨hid, hfields, hlocation⟩ := eq_of_unnumbered_eq h
  refine ⟨hid, hfields, fun cause => ?_⟩
  unfold malformed
  obtain hlocation | ⟨file, line, line', hentry, hother⟩ := hlocation
  · rw [hlocation]
    exact .same _
  · rw [hentry, hother]
    exact .record _ _ _ _ _

/-- If their lines can be written, they fail with the errors themselves. -/
theorem isTwin_error (h : entry.unnumbered = other.unnumbered)
    (hentry : ∀ place ∈ entry.location, place.IsWritable)
    (hother : ∀ place ∈ other.location, place.IsWritable) :
    entry.IsTwin (Failure.SameButLine .error) other := by
  obtain ⟨hid, hfields, hlocation⟩ := eq_of_unnumbered_eq h
  refine ⟨hid, hfields, fun cause => ?_⟩
  have hworded : (Error.malformed cause entry.location).IsWritable ↔
      (Error.malformed cause other.location).IsWritable := by
    rw [Error.isWritable_malformed_iff, Error.isWritable_malformed_iff]
    exact and_congr_left fun _ => iff_of_true hentry hother
  unfold malformed
  by_cases hwritable : (Error.malformed cause entry.location).IsWritable
  · rw [Failure.ofError_of_isWritable hwritable,
      Failure.ofError_of_isWritable (hworded.1 hwritable)]
    obtain hlocation | ⟨file, line, line', hentry, hother⟩ := hlocation
    · rw [hlocation]
      exact .same _
    · rw [hentry, hother]
      exact .record _ _ _ _ _
  · rw [Failure.ofError_eq_digitLimit_iff.2 hwritable,
      Failure.ofError_eq_digitLimit_iff.2 (hworded.not.1 hwritable)]
    exact .same _

end Entry

namespace Store

variable {store other : Store} {S : Failure → Failure → Prop} [Std.Refl S]

/-- Tables with the same look-ups, up to line numbers, list the same symbols up to line numbers. -/
theorem map_unnumbered_symbols (hfind : ∀ id, (other.find? .symbol id).map Entry.unnumbered =
      (store.find? .symbol id).map Entry.unnumbered) :
    other.symbols.map Entry.unnumbered = store.symbols.map Entry.unnumbered := by
  have hsymbols : ∀ store : Store, store.symbols.map Entry.unnumbered =
      (store.symbolTable.map fun _ entry => entry.unnumbered).toList.map Prod.snd := by
    intro store
    rw [symbols, Std.ExtTreeMap.toList_map, List.map_map, List.map_map]
    rfl
  have htables : (other.symbolTable.map fun _ entry => entry.unnumbered) =
      store.symbolTable.map fun _ entry => entry.unnumbered :=
    Std.ExtTreeMap.ext_getElem? fun id => by
      rw [Std.ExtTreeMap.getElem?_map, Std.ExtTreeMap.getElem?_map]
      exact hfind id
  rw [hsymbols, hsymbols, htables]

/-- **Stores with one version and the same look-ups, up to line numbers**, have one listing, or they
fail alike, if entries that agree up to line numbers do. -/
theorem alike_listing_of_unnumbered (hversion : other.version = store.version)
    (hfind : ∀ table id, (other.find? table id).map Entry.unnumbered =
      (store.find? table id).map Entry.unnumbered)
    (htwin : ∀ table id id' (entry twin : Entry table), store.find? table id = some entry →
      other.find? table id' = some twin → entry.unnumbered = twin.unnumbered →
      entry.IsTwin S twin) (settings : Settings) :
    Alike S Eq (store.listing settings).outcome (other.listing settings).outcome := by
  refine HasTwins.alike_listing (fun table id => ?_) hversion ?_ settings
  · have h := hfind table id
    cases hstore : store.find? table id with
    | none =>
      rw [hstore, Option.map_none, Option.map_eq_none_iff] at h
      rw [h]
      exact .none
    | some entry =>
      rw [hstore, Option.map_some, Option.map_eq_some_iff] at h
      obtain ⟨twin, hother, heq⟩ := h
      rw [hother]
      exact .some (htwin table id id entry twin hstore hother heq.symm)
  · have h := map_unnumbered_symbols (hfind .symbol)
    have hlength : store.symbols.length = other.symbols.length := by
      simpa using (congrArg List.length h).symm
    refine List.forall₂_iff_get.2 ⟨hlength, fun n hn hn' => ?_⟩
    obtain ⟨id, hstore⟩ := mem_symbols.1 (List.get_mem store.symbols ⟨n, hn⟩)
    obtain ⟨id', hother⟩ := mem_symbols.1 (List.get_mem other.symbols ⟨n, hn'⟩)
    refine htwin .symbol id id' _ _ hstore hother ?_
    have hentries : (other.symbols.map Entry.unnumbered)[n]? =
        (store.symbols.map Entry.unnumbered)[n]? := by rw [h]
    simpa [hn, hn'] using hentries.symm

end Store
end DebugLabels
