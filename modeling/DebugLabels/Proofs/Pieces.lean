import DebugLabels.Proofs.Text

/-!
# The pieces of a text between unquoted commas

A comma splits a text if the number of double quotes before it is even.  A text that no comma splits
is one piece (`splitUnquotedFrom_eq_singleton_iff`).  Any other text is a piece that closes its
quotes, a comma, and a rest that is split in the same way (`splitUnquotedFrom_eq_singleton_or`).

`IsUnquotedSplit` says what pieces have to be like without saying how they are found: joined by
commas they are the text, all but the last close their quotes, and no piece has a comma outside
quotes.  The main statement, `splitUnquoted_eq_iff`, is that every text has one such list of pieces
and that it is the one that splitting finds.  The last piece may be left open: then it holds all
that follows the open quote, commas included.
-/

namespace DebugLabels
namespace Text

/-! ### Texts of one piece -/

/-- Every double quote of the text closes, and every comma stands inside double quotes. -/
structure IsOneField (cs : List Char) : Prop where
  closed : cs.count '"' % 2 = 0
  commas : ∀ before after, cs = before ++ ',' :: after → before.count '"' % 2 = 1

/-- A text is one piece exactly if each of its commas is inside quotes, when the text starts inside
quotes or not. -/
theorem splitUnquotedFrom_eq_singleton_iff {quoted : Bool} {cs : List Char} :
    splitUnquotedFrom quoted cs = [cs] ↔
      ∀ before after, cs = before ++ ',' :: after → before.count '"' % 2 ≠ quoted.toNat := by
  constructor
  · rintro hpiece before after rfl hcount
    rw [splitUnquotedFrom_append hcount] at hpiece
    have hlength := congrArg List.length hpiece
    have hbefore := List.length_pos_of_ne_nil (splitUnquotedFrom_ne_nil quoted before)
    have hafter := List.length_pos_of_ne_nil (splitUnquotedFrom_ne_nil false after)
    rw [List.length_append, List.length_singleton] at hlength
    omega
  · intro h
    induction cs generalizing quoted with
    | nil => rfl
    | cons c cs ih =>
      have hcomma : ¬(c = ',' ∧ quoted = false) := by
        rintro ⟨rfl, rfl⟩
        exact h [] cs rfl rfl
      rw [splitUnquotedFrom, if_neg hcomma, ih, consFirst]
      rintro before after rfl
      exact fun hcount => h (c :: before) after rfl (count_quote_cons_eq_iff.2 hcount)

/-- A text that starts outside quotes is one piece exactly if an odd number of quotes stands before
each of its commas. -/
theorem splitUnquoted_eq_singleton_iff {cs : List Char} :
    splitUnquoted cs = [cs] ↔
      ∀ before after, cs = before ++ ',' :: after → before.count '"' % 2 = 1 := by
  rw [splitUnquoted, splitUnquotedFrom_eq_singleton_iff]
  simp

/-- **A text of one field is one piece.** -/
theorem isOneField_iff {cs : List Char} :
    IsOneField cs ↔ splitUnquoted cs = [cs] ∧ cs.count '"' % 2 = 0 := by
  rw [splitUnquoted_eq_singleton_iff]
  exact ⟨fun h => ⟨h.commas, h.closed⟩, fun h => ⟨h.2, h.1⟩⟩

instance (cs : List Char) : Decidable (IsOneField cs) := decidable_of_iff' _ isOneField_iff

/-! ### Texts of several pieces -/

/-- **Each text is one piece or starts with one.**  In the second case a comma follows the piece,
whose quotes are closed. -/
theorem splitUnquotedFrom_eq_singleton_or (quoted : Bool) (cs : List Char) :
    splitUnquotedFrom quoted cs = [cs] ∨
      ∃ piece rest, cs = piece ++ ',' :: rest ∧ splitUnquotedFrom quoted piece = [piece] ∧
        piece.count '"' % 2 = quoted.toNat := by
  induction cs generalizing quoted with
  | nil => exact Or.inl rfl
  | cons c cs ih =>
    by_cases hcomma : c = ',' ∧ quoted = false
    · obtain ⟨rfl, rfl⟩ := hcomma
      exact Or.inr ⟨[], cs, rfl, rfl, rfl⟩
    · have hcons : ∀ {cs : List Char},
          splitUnquotedFrom (if c = '"' then !quoted else quoted) cs = [cs] →
            splitUnquotedFrom quoted (c :: cs) = [c :: cs] := fun h => by
        rw [splitUnquotedFrom, if_neg hcomma, h, consFirst]
      rcases ih (if c = '"' then !quoted else quoted) with
        hone | ⟨piece, rest, rfl, hpiece, hcount⟩
      · exact Or.inl (hcons hone)
      · exact Or.inr ⟨c :: piece, rest, rfl, hcons hpiece, count_quote_cons_eq_iff.2 hcount⟩

/-- The pieces of a text between its commas outside double quotes: joined by commas they are the
text, all but the last close their quotes, and each comma of a piece is after an odd number of the
piece's quotes. -/
structure IsUnquotedSplit (cs : List Char) (pieces : List (List Char)) : Prop where
  join : List.intercalate [','] pieces = cs
  ne_nil : pieces ≠ []
  closed : ∀ piece ∈ pieces.dropLast, piece.count '"' % 2 = 0
  commas : ∀ piece ∈ pieces, ∀ before after, piece = before ++ ',' :: after →
    before.count '"' % 2 = 1

variable {cs piece rest : List Char} {pieces : List (List Char)}

/-- One piece is the only piece of itself, its quotes closed or not. -/
theorem IsUnquotedSplit.singleton (h : splitUnquoted cs = [cs]) : IsUnquotedSplit cs [cs] where
  join := List.intercalate_singleton
  ne_nil := List.cons_ne_nil cs []
  closed := by simp
  commas := by simpa using splitUnquoted_eq_singleton_iff.1 h

/-- A piece with a comma after it is one more piece, if its quotes close. -/
theorem IsUnquotedSplit.cons (hpiece : IsOneField piece) (h : IsUnquotedSplit rest pieces) :
    IsUnquotedSplit (piece ++ ',' :: rest) (piece :: pieces) where
  join := by
    obtain ⟨next, pieces, rfl⟩ := List.exists_cons_of_ne_nil h.ne_nil
    rw [List.intercalate_cons_cons, h.join, List.append_assoc, List.singleton_append]
  ne_nil := List.cons_ne_nil piece pieces
  closed := by
    rw [List.dropLast_cons_of_ne_nil h.ne_nil, List.forall_mem_cons]
    exact ⟨hpiece.closed, h.closed⟩
  commas := List.forall_mem_cons.2 ⟨hpiece.commas, h.commas⟩

/-- Splitting finds such pieces. -/
theorem isUnquotedSplit_splitUnquoted (cs : List Char) :
    IsUnquotedSplit cs (splitUnquoted cs) := by
  rcases splitUnquotedFrom_eq_singleton_or false cs with
    hone | ⟨piece, rest, hcs, hpiece, hcount⟩
  · rw [splitUnquoted, hone]
    exact .singleton hone
  · -- the pieces after the first are those of the rest, which is shorter
    have hshorter : rest.length < cs.length := by
      rw [hcs, List.length_append, List.length_cons]
      omega
    rw [hcs, splitUnquoted_append hcount, splitUnquoted, hpiece]
    exact .cons (isOneField_iff.2 ⟨hpiece, hcount⟩) (isUnquotedSplit_splitUnquoted rest)
termination_by cs.length

/-- Such pieces are the ones that splitting finds. -/
theorem IsUnquotedSplit.splitUnquoted_eq (h : IsUnquotedSplit cs pieces) :
    splitUnquoted cs = pieces := by
  rw [← h.join]
  exact splitUnquoted_intercalate_of_dropLast h.ne_nil
    (fun piece hpiece => splitUnquoted_eq_singleton_iff.2 (h.commas piece hpiece)) h.closed

/-- **A text is split in exactly one way.**  Every text has a list of pieces, one at least, that are
the text when they are joined by commas, that close their quotes up to the last, and that have each
comma after an odd number of their own quotes.  There is only one such list, and splitting finds
it. -/
theorem splitUnquoted_eq_iff (cs : List Char) (pieces : List (List Char)) :
    splitUnquoted cs = pieces ↔ IsUnquotedSplit cs pieces := by
  constructor
  · rintro rfl
    exact isUnquotedSplit_splitUnquoted cs
  · exact IsUnquotedSplit.splitUnquoted_eq

end Text
end DebugLabels
