import DebugLabels.Proofs.LabelFile
import DebugLabels.Proofs.Pieces
import DebugLabels.Proofs.WrittenText

/-!
# The fields of joined texts

Two texts that are joined by a comma hold the fields of both, if the quotes of the first close.  The
fields of the second are put into those of the first (`Fields.update`): a key of both keeps its
place and takes the later value.

Fields are told by their keys in order and by their look-ups (`eq_of_keys_of_get?`), so what putting
in one field does to each of the two (`keys_insert`, `get?_insert`) settles what putting in many
does: the fields of a text can be put in one by one, or decoded first and put in as a whole
(`foldl_insertPair`).

A text of one field that closes its quotes and has no comma outside of them is one piece of any text
that it is joined into (`Text.isOneField_iff`).  So such texts can be joined in any order,
with any number of commas too many, and each key still finds its value.  `decode_joined` puts both
laws together.
-/

namespace DebugLabels

namespace Fields

variable {fields new : Fields} {key value : String}

/-! ### Fields by their keys and look-ups -/

/-- The keys, in order. -/
def keys (fields : Fields) : List String := fields.pairs.map Prod.fst

/-- A look-up finds the pairs that are there. -/
theorem get?_eq_some_iff : fields.get? key = some value ↔ (key, value) ∈ fields.pairs := by
  obtain ⟨pairs, hnodup⟩ := fields
  unfold get?
  induction pairs with
  | nil => simp
  | cons pair pairs ih =>
    obtain ⟨first, held⟩ := pair
    rw [List.map_cons, List.nodup_cons] at hnodup
    by_cases hkey : key = first
    · subst hkey
      have hother : (key, value) ∉ pairs := fun h => hnodup.1 (List.mem_map.2 ⟨_, h, rfl⟩)
      simp [hother, eq_comm]
    · simp [List.lookup_cons, beq_false_of_ne hkey, hkey, ih hnodup.2]

/-- **Fields with the same keys in the same order and the same look-ups are equal.** -/
theorem eq_of_keys_of_get? (hkeys : fields.keys = new.keys)
    (hget : ∀ key, fields.get? key = new.get? key) : fields = new := by
  have hpairs : ∀ fields : Fields,
      fields.pairs = fields.keys.map fun key => (key, (fields.get? key).getD "") := by
    intro fields
    rw [keys, List.map_map]
    refine (List.map_id fields.pairs).symm.trans (List.map_congr_left fun pair hpair => ?_)
    simp [get?_eq_some_iff.2 (show (pair.1, pair.2) ∈ fields.pairs from hpair)]
  refine eq_of_pairs ?_
  rw [hpairs fields, hpairs new, hkeys]
  simp only [hget]

theorem keys_insert (fields : Fields) (key value : String) :
    (fields.insert key value).keys =
      if key ∈ fields.keys then fields.keys else fields.keys ++ [key] :=
  keys_putPair key value fields.pairs

/-! ### Fields put into fields -/

/-- The fields with new ones put in: a key that is there takes the new value at its place, and the
other new keys follow. -/
def update (fields new : Fields) : Fields where
  pairs :=
    (fields.pairs.map fun pair => (pair.1, (new.get? pair.1).getD pair.2)) ++
      new.pairs.filter fun pair => pair.1 ∉ fields.pairs.map Prod.fst
  nodup := by
    rw [List.map_append, List.map_map, List.nodup_append]
    refine ⟨fields.nodup, new.nodup.sublist ((List.filter_sublist).map Prod.fst), ?_⟩
    rintro key hkey other hother rfl
    obtain ⟨pair, hpair, rfl⟩ := List.mem_map.1 hother
    exact of_decide_eq_true (List.mem_filter.1 hpair).2 hkey

theorem keys_update (fields new : Fields) :
    (fields.update new).keys = fields.keys ++ new.keys.filter (· ∉ fields.keys) := by
  rw [keys, update, List.map_append, List.map_map, keys, keys, List.filter_map]
  rfl

theorem get?_update (fields new : Fields) (key : String) :
    (fields.update new).get? key = (new.get? key).or (fields.get? key) := by
  ext value
  simp only [get?_eq_some_iff, update, List.mem_append, List.mem_map, List.mem_filter,
    Option.or_eq_some_iff, decide_eq_true_eq, Prod.mk.injEq]
  constructor
  · rintro (⟨pair, hpair, rfl, rfl⟩ | ⟨hnew, -⟩)
    · cases hnew : new.get? pair.1 with
      | none => exact Or.inr ⟨rfl, hpair⟩
      | some held => exact Or.inl (get?_eq_some_iff.1 hnew)
    · exact Or.inl hnew
  · rintro (hnew | ⟨hnone, hheld⟩)
    · by_cases hkey : key ∈ fields.pairs.map Prod.fst
      · obtain ⟨pair, hpair, rfl⟩ := List.mem_map.1 hkey
        exact Or.inl ⟨pair, hpair, rfl, by rw [get?_eq_some_iff.2 hnew, Option.getD_some]⟩
      · exact Or.inr ⟨hnew, fun h => hkey (List.mem_map.2 h)⟩
    · exact Or.inl ⟨_, hheld, rfl, by rw [hnone, Option.getD_none]⟩

/-- One more field of the new ones is one more field of the whole. -/
theorem update_insert (fields new : Fields) (key value : String) :
    fields.update (new.insert key value) = (fields.update new).insert key value := by
  refine eq_of_keys_of_get? ?_ fun other => ?_
  · rw [keys_update, keys_insert, keys_insert, keys_update]
    by_cases hfields : key ∈ fields.keys <;> by_cases hnew : key ∈ new.keys <;>
      simp [hfields, hnew, List.filter_append]
  · rw [get?_update, get?_insert, get?_insert, get?_update]
    by_cases hother : other = key <;> simp [hother]

theorem update_empty (fields : Fields) : fields.update empty = fields := by
  refine eq_of_keys_of_get? ?_ fun key => ?_
  · rw [keys_update]
    exact List.append_nil _
  · rw [get?_update, get?_empty, Option.none_or]

/-- **Fields can be put in one by one or as a whole.** -/
theorem foldl_insertPair (fields : Fields) (pairs : List (String × Option String)) :
    pairs.foldl insertPair fields = fields.update (pairs.foldl insertPair empty) := by
  induction pairs using List.reverseRecOn with
  | nil => exact (update_empty fields).symm
  | append_singleton pairs pair ih =>
    rw [List.foldl_append, List.foldl_append, List.foldl_cons, List.foldl_cons, ih]
    exact (update_insert fields _ pair.1 _).symm

/-! ### Texts -/

variable {text first second : String}

/-- The pairs of two texts are those of each, if the quotes of the first close. -/
theorem readPairs_append (h : first.toList.count '"' % 2 = 0) (second : String) :
    readPairs (first ++ "," ++ second) = readPairs first ++ readPairs second := by
  have htext : (first ++ "," ++ second).toList = first.toList ++ ',' :: second.toList := by
    simp [String.toList_append]
  rw [readPairs, htext, Text.splitUnquoted_append h, List.filter_append, List.map_append]
  rfl

/-- The value of a pair holds no double quote. -/
theorem quote_not_mem_readPair (cs : List Char) : '"' ∉ ((readPair cs).2.getD "").toList := by
  unfold readPair
  cases hcut : (Text.cut '=' cs).2 <;> simp [hcut]

/-- **No value that is read holds a double quote.** -/
theorem not_mem_value (text : String) : (decode text).Lacks '"' := by
  have hempty : empty.Lacks '"' := fun key value hvalue => by simp at hvalue
  refine List.foldlRecOn (motive := fun fields => fields.Lacks '"') _ insertPair hempty
    fun fields hfields pair hpair => hfields.insert ?_
  obtain ⟨piece, -, rfl⟩ := List.mem_map.1 hpair
  exact quote_not_mem_readPair piece

/-- The key of a text of one field. -/
def keyOf (text : String) : String := (readPair text.toList).1

/-- The value of a text of one field. -/
def valueOf (text : String) : String := (readPair text.toList).2.getD ""

/-- The pairs of joined texts of one field each are those of the texts that are not empty. -/
theorem readPairs_intercalate {pieces : List String}
    (h : ∀ text ∈ pieces, Text.IsOneField text.toList) :
    readPairs (",".intercalate pieces) =
      (pieces.filter (· ≠ "")).map fun text => readPair text.toList := by
  cases pieces with
  | nil => rfl
  | cons piece pieces =>
    have hsplit : Text.splitUnquoted (",".intercalate (piece :: pieces)).toList =
        (piece :: pieces).map String.toList := by
      rw [String.toList_intercalate]
      refine Text.splitUnquoted_intercalate (List.cons_ne_nil _ _) fun cs hcs => ?_
      obtain ⟨text, htext, rfl⟩ := List.mem_map.1 hcs
      exact Text.isOneField_iff.1 (h text htext)
    have hempty : ∀ text : String, (!text.toList.isEmpty) = decide (text ≠ "") := fun text => by
      rw [Bool.eq_iff_iff]
      simp
    rw [readPairs, hsplit, List.filter_map, List.map_map]
    exact congrArg (List.map _) (List.filter_congr fun text _ => hempty text)

/-- **Texts of one field each can be joined in any order**, with any number of commas too many. -/
theorem get?_decode_intercalate {texts pieces : List String} {extra : Nat}
    (hfield : ∀ text ∈ texts, Text.IsOneField text.toList) (hkeys : (texts.map keyOf).Nodup)
    (hpieces : pieces.Perm (texts ++ List.replicate extra "")) :
    (decode (",".intercalate pieces)).get? key = some value ↔
      ∃ text ∈ texts, text ≠ "" ∧ keyOf text = key ∧ valueOf text = value := by
  have hpiece : ∀ text ∈ pieces, Text.IsOneField text.toList := by
    intro text htext
    rcases List.mem_append.1 (hpieces.mem_iff.1 htext) with htext | htext
    · exact hfield text htext
    · rw [List.eq_of_mem_replicate htext]
      decide
  have hfilter : (pieces.filter (· ≠ "")).Perm (texts.filter (· ≠ "")) := by
    simpa [List.filter_append] using hpieces.filter (· ≠ "")
  have hnodup : ((pieces.filter (· ≠ "")).map keyOf).Nodup :=
    (hfilter.map keyOf).nodup_iff.2 (hkeys.sublist ((List.filter_sublist).map keyOf))
  have hpairs : (decode (",".intercalate pieces)).pairs =
      (pieces.filter (· ≠ "")).map fun text => (keyOf text, valueOf text) := by
    rw [decode, readPairs_intercalate hpiece,
      pairs_foldl_insertPair (by rw [List.map_map]; exact hnodup), List.map_map]
    rfl
  rw [get?_eq_some_iff, hpairs, List.mem_map]
  simp only [hfilter.mem_iff, List.mem_filter, decide_eq_true_eq, Prod.mk.injEq, and_assoc]

/-- **The fields of joined texts.**  If the quotes of the first of two texts close, the fields of
the second are put into those of the first.  Texts that close their quotes, have no comma outside of
them and have distinct keys are decoded alike in whatever order they are joined, with commas too
many or without: each key has the value of its text.  No value holds a double quote. -/
theorem decode_joined :
    (∀ first second : String, first.toList.count '"' % 2 = 0 →
      decode (first ++ "," ++ second) = (decode first).update (decode second)) ∧
    (∀ texts : List String, (∀ text ∈ texts, Text.IsOneField text.toList) →
      (texts.map keyOf).Nodup →
      ∀ pieces extra, pieces.Perm (texts ++ List.replicate extra "") →
        ∀ key value, (decode (",".intercalate pieces)).get? key = some value ↔
          ∃ text ∈ texts, text ≠ "" ∧ keyOf text = key ∧ valueOf text = value) ∧
    ∀ text key value, (decode text).get? key = some value → '"' ∉ value.toList := by
  refine ⟨fun first second h => ?_, fun texts hfield hkeys pieces extra hpieces key value => ?_,
    not_mem_value⟩
  · rw [decode, readPairs_append h, List.foldl_append]
    exact foldl_insertPair (decode first) (readPairs second)
  · exact get?_decode_intercalate hfield hkeys hpieces

/-- An open quote takes in all that follows it; the key that comes twice keeps its place, and the
joined texts come in another order with three commas too many. -/
theorem decode_joined_open :
    decode ("id=0,name=\"a,b\",size=1" ++ "," ++ "name=\"c,id=1") =
        (decode "id=0,name=\"a,b\",size=1").update (decode "name=\"c,id=1") ∧
      ((decode "id=0,name=\"a,b\",size=1").update (decode "name=\"c,id=1")).pairs =
        [("id", "0"), ("name", "c,id=1"), ("size", "1")] ∧
      (decode ",name=\"a,b\",,id=3,").get? "name" = some "a,b" ∧ '"' ∉ "a,b".toList := by
  obtain ⟨happend, hjoined, hquote⟩ := decode_joined
  have hname := (hjoined ["id=3", "name=\"a,b\""] (by decide) (by decide)
    ["", "name=\"a,b\"", "", "id=3", ""] 3 (by decide) "name" "a,b").2
    ⟨"name=\"a,b\"", by decide, by decide, by decide, by decide⟩
  exact ⟨happend _ _ (by decide), by decide, hname, hquote _ _ _ hname⟩

end Fields
end DebugLabels
