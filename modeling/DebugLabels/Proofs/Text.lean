import Mathlib.Data.List.Basic
import Mathlib.Data.List.TakeWhile
import DebugLabels.Text.Blank
import DebugLabels.Text.Split

/-!
# Putting text together and taking it apart

What trimming and splitting make of a text that was put together from parts: trimming leaves a text
alone whose ends are outside the class (`trim_eq_self`), the lines of two texts are the lines of
each if the first ends with a line feed (`lines_append`), a line without what ends it holds no line
feed (`not_mem_of_mem_bareLines`), a comma after an even number of double quotes splits
(`splitUnquotedFrom_append`), and pieces without the separator are the pieces of the whole
(`splitUnquoted_intercalate_of_dropLast`, `splitOn_intercalate`).
-/

namespace DebugLabels
namespace Text

variable {p : Char → Bool} {cs : List Char}

/-! ### Trimming -/

/-- A text that does not end in the class keeps its end. -/
theorem trimEnd_eq_self (h : ∀ c ∈ cs.getLast?, p c = false) : trimEnd p cs = cs := by
  rcases List.eq_nil_or_concat' cs with rfl | ⟨before, c, rfl⟩
  · rfl
  · exact trimEnd_append_of_not (h c (by simp)) before

/-- **A text with both ends outside the class is left alone.** -/
theorem trim_eq_self (hhead : ∀ c ∈ cs.head?, p c = false)
    (hlast : ∀ c ∈ cs.getLast?, p c = false) : trim p cs = cs := by
  have hdrop : cs.dropWhile p = cs := by
    cases cs with
    | nil => rfl
    | cons c cs => simp [hhead c (by simp)]
  rw [trim, hdrop, trimEnd_eq_self hlast]

/-- A text without characters of the class is left alone. -/
theorem trim_eq_self_of_forall (h : ∀ c ∈ cs, p c = false) : trim p cs = cs :=
  trim_eq_self (fun c hc => h c (List.mem_of_mem_head? hc))
    (fun c hc => h c (List.mem_of_mem_getLast? hc))

/-- **What stands around a text in the class does not show**, if the text has none of the class. -/
theorem trim_append {before after : List Char} (hbefore : ∀ c ∈ before, p c = true)
    (hafter : ∀ c ∈ after, p c = true) (h : ∀ c ∈ cs, p c = false) :
    trim p (before ++ cs ++ after) = cs := by
  rw [trim, List.append_assoc, List.dropWhile_append_of_pos hbefore]
  cases cs with
  | nil =>
    rw [List.nil_append, List.dropWhile_eq_nil_iff.2 hafter]
    rfl
  | cons c cs =>
    have hkept : ¬ p c = true := by simp [h c (by simp)]
    rw [List.cons_append, List.dropWhile_cons_of_neg hkept, ← List.cons_append,
      trimEnd_append_of_all hafter, trimEnd_eq_self fun d hd => h d (List.mem_of_mem_getLast? hd)]

/-- What is trimmed stays trimmed. -/
theorem trimEnd_trimEnd (p : Char → Bool) (cs : List Char) :
    trimEnd p (trimEnd p cs) = trimEnd p cs := by
  induction cs with
  | nil => rfl
  | cons c cs ih =>
    rw [trimEnd_cons]
    split
    · rfl
    · rename_i hkept
      rw [trimEnd_cons, ih, if_neg hkept]

/-! ### Lines -/

/-- The lines of a text without what ends them. -/
def bareLines (cs : List Char) : List (List Char) := (lines cs).map (trimEnd isLineEnd)

theorem lines_cons (c : Char) (cs : List Char) : lines (c :: cs) = consLine c (lines cs) := rfl

theorem lines_ne_nil (h : cs ≠ []) : lines cs ≠ [] := by
  intro hlines
  apply h
  rw [← flatten_lines cs, hlines, List.flatten_nil]

theorem consLine_append (c : Char) {first : List (List Char)} (h : first ≠ [])
    (rest : List (List Char)) : consLine c (first ++ rest) = consLine c first ++ rest := by
  cases first with
  | nil => exact absurd rfl h
  | cons line first =>
    unfold consLine
    split <;> rfl

/-- **The lines of two texts** are the lines of each, if the first ends with a line feed. -/
theorem lines_append (h : ∀ c ∈ cs.getLast?, c = '\n') (rest : List Char) :
    lines (cs ++ rest) = lines cs ++ lines rest := by
  induction cs with
  | nil => rfl
  | cons c cs ih =>
    rw [List.cons_append, lines_cons, lines_cons]
    cases cs with
    | nil =>
      obtain rfl : c = '\n' := h c (by simp)
      simp [consLine, lines]
    | cons d cs =>
      rw [ih (fun e he => h e (by simpa [List.getLast?_cons_cons] using he)),
        consLine_append c (lines_ne_nil (List.cons_ne_nil d cs))]

/-- A text without a line feed and one line feed are one line. -/
theorem lines_of_not_mem (h : '\n' ∉ cs) : lines (cs ++ ['\n']) = [cs ++ ['\n']] := by
  induction cs with
  | nil => rfl
  | cons c cs ih =>
    rw [List.mem_cons, not_or] at h
    rw [List.cons_append, lines_cons, ih h.2, consLine, if_neg (Ne.symm h.1)]
    rfl

/-- Texts without line feeds that are each followed by one are the lines of the whole. -/
theorem lines_flatMap {texts : List (List Char)} (h : ∀ cs ∈ texts, '\n' ∉ cs) :
    lines (texts.flatMap (· ++ ['\n'])) = texts.map (· ++ ['\n']) := by
  induction texts with
  | nil => rfl
  | cons cs texts ih =>
    rw [List.forall_mem_cons] at h
    rw [List.flatMap_cons, List.map_cons, lines_append (by simp), lines_of_not_mem h.1, ih h.2]
    rfl

/-- A line is a text without line feeds, which one line feed may follow. -/
theorem exists_eq_of_mem_lines {line : List Char} (h : line ∈ lines cs) :
    ∃ body, '\n' ∉ body ∧ (line = body ∨ line = body ++ ['\n']) := by
  induction cs generalizing line with
  | nil => simp [lines] at h
  | cons c cs ih =>
    rw [lines_cons, consLine] at h
    split at h
    · rcases List.mem_cons.1 h with rfl | h
      · rename_i hc
        exact ⟨[], List.not_mem_nil, Or.inr (by rw [hc]; rfl)⟩
      · exact ih h
    · rename_i hc
      cases hlines : lines cs with
      | nil =>
        rw [hlines, consFirst, List.mem_singleton] at h
        exact ⟨[c], by simpa using Ne.symm hc, Or.inl h⟩
      | cons first rest =>
        rw [hlines, consFirst] at h
        rcases List.mem_cons.1 h with rfl | h
        · obtain ⟨body, hbody, hfirst⟩ := ih (hlines ▸ List.mem_cons_self)
          refine ⟨c :: body, ?_, hfirst.imp (congrArg (c :: ·)) (congrArg (c :: ·))⟩
          rw [List.mem_cons, not_or]
          exact ⟨Ne.symm hc, hbody⟩
        · exact ih (hlines ▸ List.mem_cons_of_mem first h)

/-- **Without what ends it, no line holds a line feed.** -/
theorem not_mem_of_mem_bareLines {line : List Char} (h : line ∈ bareLines cs) : '\n' ∉ line := by
  obtain ⟨whole, hwhole, rfl⟩ := List.mem_map.1 h
  obtain ⟨body, hbody, rfl | rfl⟩ := exists_eq_of_mem_lines hwhole
  · exact fun hmem => hbody (mem_of_mem_trimEnd hmem)
  · rw [trimEnd_append_of_all (by simp [isLineEnd])]
    exact fun hmem => hbody (mem_of_mem_trimEnd hmem)

/-- The lines hold nothing that the text does not hold. -/
theorem mem_of_mem_bareLines {line : List Char} {c : Char} (h : line ∈ bareLines cs)
    (hc : c ∈ line) : c ∈ cs := by
  obtain ⟨whole, hwhole, rfl⟩ := List.mem_map.1 h
  rw [← flatten_lines cs]
  exact List.mem_flatten.2 ⟨whole, hwhole, mem_of_mem_trimEnd hc⟩

/-- A line feed ends a line. -/
theorem bareLines_lineFeed_cons (cs : List Char) : bareLines ('\n' :: cs) = [] :: bareLines cs := rfl

/-- So does a carriage return with a line feed. -/
theorem bareLines_return_lineFeed_cons (cs : List Char) :
    bareLines ('\r' :: '\n' :: cs) = [] :: bareLines cs := rfl

/-- Any other character stands in the first line. -/
theorem bareLines_cons {c : Char} (h : isLineEnd c = false) (cs : List Char) :
    bareLines (c :: cs) = consFirst c (bareLines cs) := by
  have hfeed : c ≠ '\n' := by
    rintro rfl
    exact absurd h (by decide)
  rw [bareLines, bareLines, lines_cons, consLine, if_neg hfeed]
  cases lines cs with
  | nil => simp [consFirst, trimEnd_cons, h]
  | cons first rest => simp [consFirst, trimEnd_cons, h]

/-! ### Commas outside quotes -/

theorem consFirst_append (c : Char) {pieces : List (List Char)} (h : pieces ≠ [])
    (rest : List (List Char)) : consFirst c (pieces ++ rest) = consFirst c pieces ++ rest := by
  cases pieces with
  | nil => exact absurd rfl h
  | cons piece pieces => rfl

/-- The state that a text starts in and the parity of its quotes change together: a quote in front
flips both, any other character neither. -/
theorem count_quote_cons_eq_iff {quoted : Bool} {c : Char} :
    (c :: cs).count '"' % 2 = quoted.toNat ↔
      cs.count '"' % 2 = (if c = '"' then !quoted else quoted).toNat := by
  by_cases hquote : c = '"'
  · subst hquote
    rw [List.count_cons_self, if_pos rfl]
    cases quoted <;> simp <;> omega
  · rw [List.count_cons_of_ne hquote, if_neg hquote]

/-- **A comma after quotes have closed splits.**  The number of quotes before it is even if the text
starts outside quotes and odd if it starts inside. -/
theorem splitUnquotedFrom_append {quoted : Bool} (h : cs.count '"' % 2 = quoted.toNat)
    (rest : List Char) :
    splitUnquotedFrom quoted (cs ++ ',' :: rest) =
      splitUnquotedFrom quoted cs ++ splitUnquotedFrom false rest := by
  induction cs generalizing quoted with
  | nil =>
    cases quoted with
    | true => simp at h
    | false => simp [splitUnquotedFrom]
  | cons c cs ih =>
    rw [List.cons_append, splitUnquotedFrom, splitUnquotedFrom]
    by_cases hcomma : c = ',' ∧ quoted = false
    · obtain ⟨rfl, rfl⟩ := hcomma
      rw [if_pos ⟨rfl, rfl⟩, if_pos ⟨rfl, rfl⟩, ih (by simpa using h), List.cons_append]
    · rw [if_neg hcomma, if_neg hcomma, ih (count_quote_cons_eq_iff.1 h),
        consFirst_append _ (splitUnquotedFrom_ne_nil _ _)]

theorem splitUnquoted_append (h : cs.count '"' % 2 = 0) (rest : List Char) :
    splitUnquoted (cs ++ ',' :: rest) = splitUnquoted cs ++ splitUnquoted rest :=
  splitUnquotedFrom_append h rest

/-- **Pieces that no comma splits are the pieces of the whole**, if the quotes of all but the last
close. -/
theorem splitUnquoted_intercalate_of_dropLast {pieces : List (List Char)} (hne : pieces ≠ [])
    (hpiece : ∀ cs ∈ pieces, splitUnquoted cs = [cs])
    (hclosed : ∀ cs ∈ pieces.dropLast, cs.count '"' % 2 = 0) :
    splitUnquoted (List.intercalate [','] pieces) = pieces := by
  induction pieces with
  | nil => exact absurd rfl hne
  | cons piece pieces ih =>
    rw [List.forall_mem_cons] at hpiece
    cases pieces with
    | nil => rw [List.intercalate_singleton, hpiece.1]
    | cons next pieces =>
      rw [List.dropLast_cons_cons, List.forall_mem_cons] at hclosed
      rw [List.intercalate_cons_cons, List.append_assoc, List.singleton_append,
        splitUnquoted_append hclosed.1, hpiece.1,
        ih (List.cons_ne_nil next pieces) hpiece.2 hclosed.2]
      rfl

/-- Pieces in which every quote closes and no comma splits are the pieces of the whole. -/
theorem splitUnquoted_intercalate {pieces : List (List Char)} (hne : pieces ≠ [])
    (h : ∀ cs ∈ pieces, splitUnquoted cs = [cs] ∧ cs.count '"' % 2 = 0) :
    splitUnquoted (List.intercalate [','] pieces) = pieces :=
  splitUnquoted_intercalate_of_dropLast hne (fun cs hcs => (h cs hcs).1)
    fun cs hcs => (h cs ((List.dropLast_sublist pieces).subset hcs)).2

/-- A character that is in no piece and not in the separator is not in the whole. -/
theorem not_mem_intercalate {c : Char} {sep : List Char} {pieces : List (List Char)}
    (hsep : c ∉ sep) (h : ∀ cs ∈ pieces, c ∉ cs) : c ∉ List.intercalate sep pieces := by
  induction pieces with
  | nil => simp
  | cons piece pieces ih =>
    rw [List.forall_mem_cons] at h
    cases pieces with
    | nil => simpa using h.1
    | cons next pieces =>
      rw [List.intercalate_cons_cons, List.mem_append, List.mem_append, not_or, not_or]
      exact ⟨⟨h.1, hsep⟩, ih h.2⟩

/-- What is in a piece is in the whole. -/
theorem mem_intercalate_of_mem {c : Char} {sep piece : List Char} {pieces : List (List Char)}
    (h : piece ∈ pieces) (hc : c ∈ piece) : c ∈ List.intercalate sep pieces := by
  induction pieces with
  | nil => simp at h
  | cons first pieces ih =>
    cases pieces with
    | nil =>
      rw [List.intercalate_singleton, ← List.mem_singleton.1 h]
      exact hc
    | cons next pieces =>
      rw [List.intercalate_cons_cons, List.mem_append]
      rcases List.mem_cons.1 h with rfl | h
      · exact Or.inl (List.mem_append_left sep hc)
      · exact Or.inr (ih h)

/-- Characters that are neither commas nor quotes do not split. -/
theorem splitUnquotedFrom_append_of_plain {quoted : Bool} {rest : List Char}
    (hcomma : ',' ∉ cs) (hquote : '"' ∉ cs) (h : splitUnquotedFrom quoted rest = [rest]) :
    splitUnquotedFrom quoted (cs ++ rest) = [cs ++ rest] := by
  induction cs with
  | nil => exact h
  | cons c cs ih =>
    rw [List.mem_cons, not_or] at hcomma hquote
    rw [List.cons_append, splitUnquotedFrom, if_neg fun hc => hcomma.1 hc.1.symm,
      if_neg (Ne.symm hquote.1), ih hcomma.2 hquote.2]
    rfl

/-- Inside quotes nothing splits up to the quote that closes them. -/
theorem splitUnquotedFrom_true (hquote : '"' ∉ cs) :
    splitUnquotedFrom true (cs ++ ['"']) = [cs ++ ['"']] := by
  induction cs with
  | nil => rfl
  | cons c cs ih =>
    rw [List.mem_cons, not_or] at hquote
    rw [List.cons_append, splitUnquotedFrom, if_neg (by simp), if_neg (Ne.symm hquote.1),
      ih hquote.2]
    rfl

/-! ### Pieces between separators -/

/-- No piece holds the separator. -/
theorem not_mem_of_mem_splitOn {sep : Char} {piece : List Char} (h : piece ∈ splitOn sep cs) :
    sep ∉ piece := by
  induction cs generalizing piece with
  | nil =>
    rw [splitOn, List.mem_singleton] at h
    simp [h]
  | cons c cs ih =>
    rw [splitOn] at h
    split at h
    · rcases List.mem_cons.1 h with rfl | h
      · exact List.not_mem_nil
      · exact ih h
    · rename_i hc
      obtain ⟨first, rest, hpieces⟩ := List.exists_cons_of_ne_nil (splitOn_ne_nil sep cs)
      rw [hpieces, consFirst] at h
      rcases List.mem_cons.1 h with rfl | h
      · rw [List.mem_cons, not_or]
        exact ⟨Ne.symm hc, ih (by simp [hpieces])⟩
      · exact ih (by simp [hpieces, h])

/-- Pieces are cut off the front at the first separator. -/
theorem splitOn_append {sep : Char} {piece : List Char} (h : sep ∉ piece) (rest : List Char) :
    splitOn sep (piece ++ sep :: rest) = piece :: splitOn sep rest := by
  induction piece with
  | nil => simp [splitOn]
  | cons c piece ih =>
    rw [List.mem_cons, not_or] at h
    rw [List.cons_append, splitOn, if_neg (Ne.symm h.1), ih h.2]
    rfl

theorem splitOn_of_not_mem {sep : Char} (h : sep ∉ cs) : splitOn sep cs = [cs] := by
  induction cs with
  | nil => rfl
  | cons c cs ih =>
    rw [List.mem_cons, not_or] at h
    rw [splitOn, if_neg (Ne.symm h.1), ih h.2]
    rfl

/-- **Pieces without the separator are the pieces of the whole.** -/
theorem splitOn_intercalate {sep : Char} {pieces : List (List Char)} (hne : pieces ≠ [])
    (h : ∀ piece ∈ pieces, sep ∉ piece) :
    splitOn sep (List.intercalate [sep] pieces) = pieces := by
  induction pieces with
  | nil => exact absurd rfl hne
  | cons piece pieces ih =>
    rw [List.forall_mem_cons] at h
    cases pieces with
    | nil => rw [List.intercalate_singleton, splitOn_of_not_mem h.1]
    | cons next pieces =>
      rw [List.intercalate_cons_cons, List.append_assoc, List.singleton_append,
        splitOn_append h.1, ih (List.cons_ne_nil next pieces) h.2]

end Text
end DebugLabels
