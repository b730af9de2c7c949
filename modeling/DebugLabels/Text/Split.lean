/-!
# Cutting and splitting text

`cut` takes a text apart at the first separator, `splitOn` at every one, and `splitUnquoted` at
every comma that is outside double quotes. `lines` cuts after every line feed, which stays with its
line. Nothing is lost: `cut_join`, `splitUnquoted_join` and `flatten_lines` put the text together
again.
-/

namespace DebugLabels
namespace Text

/-- The text before the first separator, and what follows it if there is one. -/
def cut (sep : Char) : List Char → List Char × Option (List Char)
  | [] => ([], none)
  | c :: cs =>
    if c = sep then ([], some cs)
    else
      let (head, tail) := cut sep cs
      (c :: head, tail)

/-- The text that `cut` was given. -/
theorem cut_join (sep : Char) (cs : List Char) :
    (cut sep cs).1 ++ ((cut sep cs).2.map (sep :: ·)).getD [] = cs := by
  induction cs with
  | nil => rfl
  | cons c cs ih =>
    by_cases h : c = sep
    · simp [cut, h]
    · simpa [cut, h] using ih

/-- A text without the separator is all head. -/
theorem cut_of_not_mem {sep : Char} {cs : List Char} (h : sep ∉ cs) : cut sep cs = (cs, none) := by
  induction cs with
  | nil => rfl
  | cons c cs ih =>
    simp only [List.mem_cons, not_or] at h
    simp [cut, Ne.symm h.1, ih h.2]

/-- The first separator is where the text is cut. -/
theorem cut_append {sep : Char} {head : List Char} (h : sep ∉ head) (tail : List Char) :
    cut sep (head ++ sep :: tail) = (head, some tail) := by
  induction head with
  | nil => simp [cut]
  | cons c head ih =>
    simp only [List.mem_cons, not_or] at h
    simp [cut, Ne.symm h.1, ih h.2]

/-- Put a character in front of the first piece. -/
def consFirst (c : Char) : List (List Char) → List (List Char)
  | [] => [[c]]
  | piece :: pieces => (c :: piece) :: pieces

/-- The pieces between separators; a text without separators is one piece. -/
def splitOn (sep : Char) : List Char → List (List Char)
  | [] => [[]]
  | c :: cs => if c = sep then [] :: splitOn sep cs else consFirst c (splitOn sep cs)

/-- The pieces between commas outside double quotes, when the text starts inside quotes or not. -/
def splitUnquotedFrom : Bool → List Char → List (List Char)
  | _, [] => [[]]
  | quoted, c :: cs =>
    if c = ',' ∧ quoted = false then [] :: splitUnquotedFrom false cs
    else consFirst c (splitUnquotedFrom (if c = '"' then !quoted else quoted) cs)

/-- The pieces between commas outside double quotes. An open quote runs to the end of the text. -/
def splitUnquoted (cs : List Char) : List (List Char) := splitUnquotedFrom false cs

theorem consFirst_ne_nil (c : Char) (pieces : List (List Char)) : consFirst c pieces ≠ [] := by
  cases pieces <;> simp [consFirst]

theorem splitOn_ne_nil (sep : Char) (cs : List Char) : splitOn sep cs ≠ [] := by
  cases cs with
  | nil => simp [splitOn]
  | cons c cs =>
    rw [splitOn]
    split
    · simp
    · exact consFirst_ne_nil _ _

theorem splitUnquotedFrom_ne_nil (quoted : Bool) (cs : List Char) :
    splitUnquotedFrom quoted cs ≠ [] := by
  cases cs with
  | nil => simp [splitUnquotedFrom]
  | cons c cs =>
    rw [splitUnquotedFrom]
    split
    · simp
    · exact consFirst_ne_nil _ _

theorem intercalate_consFirst (sep : List Char) (c : Char) {pieces : List (List Char)}
    (h : pieces ≠ []) :
    List.intercalate sep (consFirst c pieces) = c :: List.intercalate sep pieces := by
  match pieces, h with
  | [p], _ => simp [consFirst, List.intercalate]
  | p :: q :: rest, _ => simp [consFirst, List.intercalate]

theorem intercalate_nil_cons (sep : List Char) {pieces : List (List Char)} (h : pieces ≠ []) :
    List.intercalate sep ([] :: pieces) = sep ++ List.intercalate sep pieces := by
  match pieces, h with
  | p :: rest, _ => simp [List.intercalate]

/-- Joined by the separator, the pieces are the text. -/
theorem splitOn_join (sep : Char) (cs : List Char) :
    List.intercalate [sep] (splitOn sep cs) = cs := by
  induction cs with
  | nil => rfl
  | cons c cs ih =>
    rw [splitOn]
    split
    · rename_i h
      rw [intercalate_nil_cons _ (splitOn_ne_nil _ _), ih, h]; rfl
    · rw [intercalate_consFirst _ _ (splitOn_ne_nil _ _), ih]

/-- Joined by commas, the pieces are the text. -/
theorem splitUnquotedFrom_join (quoted : Bool) (cs : List Char) :
    List.intercalate [','] (splitUnquotedFrom quoted cs) = cs := by
  induction cs generalizing quoted with
  | nil => rfl
  | cons c cs ih =>
    rw [splitUnquotedFrom]
    split
    · rename_i h
      rw [intercalate_nil_cons _ (splitUnquotedFrom_ne_nil _ _), ih, h.1]; rfl
    · rw [intercalate_consFirst _ _ (splitUnquotedFrom_ne_nil _ _), ih]

theorem splitUnquoted_join (cs : List Char) :
    List.intercalate [','] (splitUnquoted cs) = cs :=
  splitUnquotedFrom_join false cs

/-- Put a character in front of the lines of a text. -/
def consLine (c : Char) (rest : List (List Char)) : List (List Char) :=
  if c = '\n' then [c] :: rest else consFirst c rest

/-- The lines of a text, each with the line feed that ends it. -/
def lines (cs : List Char) : List (List Char) := cs.foldr consLine []

theorem flatten_consLine (c : Char) (rest : List (List Char)) :
    (consLine c rest).flatten = c :: rest.flatten := by
  unfold consLine
  split
  · simp
  · cases rest <;> simp [consFirst]

/-- One after the other, the lines are the text. -/
theorem flatten_lines (cs : List Char) : (lines cs).flatten = cs := by
  induction cs with
  | nil => rfl
  | cons c cs ih =>
    rw [lines, List.foldr_cons, flatten_consLine, ← lines, ih]

/-- Line ends of every kind as line feeds: a carriage return is one, and a line feed right after a
carriage return belongs to it. -/
def unifyLineEnds (cs : List Char) : List Char :=
  (cs.zip (' ' :: cs)).flatMap fun (c, before) =>
    if c = '\r' then ['\n'] else if c = '\n' ∧ before = '\r' then [] else [c]

/-- No carriage return is left. -/
theorem not_mem_unifyLineEnds (cs : List Char) : '\r' ∉ unifyLineEnds cs := by
  simp only [unifyLineEnds, List.mem_flatMap, not_exists, not_and]
  rintro ⟨c, before⟩ _
  dsimp only
  split
  · decide
  · split
    · simp
    · rename_i h _
      simpa using Ne.symm h

/-- A comma inside quotes does not split, nor does one after an open quote. -/
example : splitUnquoted ['a', '"', ',', '"', ',', '"', ','] = [['a', '"', ',', '"'], ['"', ',']] := by
  decide

/-- The last line may lack its line feed. -/
example : lines ['a', '\n', '\n', 'b'] = [['a', '\n'], ['\n'], ['b']] := by decide

/-- A pair of carriage return and line feed is one line end, in this order only. -/
example : unifyLineEnds ['\r', '\n', '\r', '\r', '\n', '\n', '\r'] =
    ['\n', '\n', '\n', '\n', '\n'] := by decide

end Text
end DebugLabels
