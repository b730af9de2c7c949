import DebugLabels.Text.Blank
import DebugLabels.Text.Quoted
import DebugLabels.Text.Split

/-!
# The fields of a record

A record's fields are written `key=value`, separated by commas.

* A comma inside double quotes belongs to the field it is in.
* A field without any character is skipped.
* The key is what comes before the first `=`, without the blanks around it.
* The value is what comes after the first `=`, without its double quotes; a field that has no `=`
  has the empty value.
* Of two fields with one key the later value counts, at the earlier place.

`Fields.decode` reads them. No value that it reads holds a double quote (`not_mem_value`).
-/

namespace DebugLabels

/-- Put a value under a key: at the place of the key if it is there, and at the end if not. -/
def putPair (key value : String) : List (String × String) → List (String × String)
  | [] => [(key, value)]
  | pair :: pairs =>
    if pair.1 = key then (key, value) :: pairs else pair :: putPair key value pairs

theorem keys_putPair (key value : String) (pairs : List (String × String)) :
    (putPair key value pairs).map Prod.fst =
      if key ∈ pairs.map Prod.fst then pairs.map Prod.fst else pairs.map Prod.fst ++ [key] := by
  induction pairs with
  | nil => simp [putPair]
  | cons pair pairs ih =>
    by_cases h : pair.1 = key
    · simp [putPair, h]
    · simp only [putPair, if_neg h, List.map_cons, ih, List.mem_cons, Ne.symm h, false_or]
      split <;> simp

theorem nodup_keys_putPair (key value : String) {pairs : List (String × String)}
    (h : (pairs.map Prod.fst).Nodup) : ((putPair key value pairs).map Prod.fst).Nodup := by
  rw [keys_putPair]
  split
  · exact h
  · rename_i hk
    rw [List.nodup_append]
    exact ⟨h, by simp, fun a ha b hb => by
      rw [List.mem_singleton] at hb
      rintro rfl
      exact hk (hb ▸ ha)⟩

theorem lookup_putPair (key value other : String) (pairs : List (String × String)) :
    (putPair key value pairs).lookup other =
      if other = key then some value else pairs.lookup other := by
  induction pairs with
  | nil =>
    by_cases h : other = key
    · simp [putPair, h]
    · simp [putPair, List.lookup_cons, h, beq_false_of_ne h]
  | cons pair pairs ih =>
    obtain ⟨k, v⟩ := pair
    by_cases hk : k = key
    · subst hk
      by_cases h : other = k
      · simp [putPair, h]
      · simp [putPair, List.lookup_cons, h, beq_false_of_ne h]
    · by_cases h : other = k
      · subst h
        simp [putPair, hk]
      · simp [putPair, hk, List.lookup_cons, beq_false_of_ne h, ih]

/-- The fields of a record, in order, each key once. -/
structure Fields where
  pairs : List (String × String)
  nodup : (pairs.map Prod.fst).Nodup

namespace Fields

instance : DecidableEq Fields := fun a b =>
  if h : a.pairs = b.pairs then isTrue (by cases a; cases b; cases h; rfl)
  else isFalse fun hab => h (congrArg pairs hab)

/-- No fields. -/
def empty : Fields := ⟨[], List.nodup_nil⟩

/-- The value under a key. -/
def get? (fields : Fields) (key : String) : Option String := fields.pairs.lookup key

/-- There is a field with the key. -/
def contains (fields : Fields) (key : String) : Bool := (fields.get? key).isSome

/-- Put a value under a key. -/
def insert (fields : Fields) (key value : String) : Fields :=
  ⟨putPair key value fields.pairs, nodup_keys_putPair key value fields.nodup⟩

@[simp] theorem get?_empty (key : String) : empty.get? key = none := rfl

@[simp] theorem get?_insert (fields : Fields) (key value other : String) :
    (fields.insert key value).get? other =
      if other = key then some value else fields.get? other :=
  lookup_putPair key value other fields.pairs

/-- One field as it is written: the key, and the value if there is an `=`. -/
def readPair (cs : List Char) : String × Option String :=
  let (key, value) := Text.cut '=' cs
  (String.ofList (Text.trim Text.isBlank key),
    value.map fun cs => String.ofList (cs.filter (· ≠ '"')))

/-- The fields as they are written, in order. -/
def readPairs (text : String) : List (String × Option String) :=
  ((Text.splitUnquoted text.toList).filter (!·.isEmpty)).map readPair

/-- Put a field as it is written. -/
def insertPair (fields : Fields) (pair : String × Option String) : Fields :=
  fields.insert pair.1 (pair.2.getD "")

/-- The fields that a text holds. -/
def decode (text : String) : Fields := (readPairs text).foldl insertPair empty

/-- The keys that are written without a value, in order. -/
def keysWithoutValue (text : String) : List String :=
  ((readPairs text).filter (·.2.isNone)).map Prod.fst

/-- Fields as a notice shows them: keys and values quoted, between braces. -/
def shown (fields : Fields) : String :=
  let pairs := fields.pairs.map fun (key, value) => Text.quoted key ++ ": " ++ Text.quoted value
  "\x7b" ++ ", ".intercalate pairs ++ "\x7d"

/-- A field without a value, blanks around a key and inside a value, a comma in quotes. -/
example : (readPair ['a', ' ']) = ("a", none) ∧
    (readPair [' ', 'a', '=', ' ', '"', 'b', '"']) = ("a", some " b") := by decide

/-- A later value comes at the earlier place. -/
example : (((empty.insert "a" "1").insert "b" "2").insert "a" "3").pairs =
    [("a", "3"), ("b", "2")] := by decide

end Fields
end DebugLabels
