/-!
# Blank characters and trimmed text

| class | characters |
| --- | --- |
| `isBlank` | U+0009–000D, U+001C–0020, U+0085, U+00A0, U+1680, U+2000–200A, U+2028, U+2029, U+202F, U+205F, U+3000 |
| `isNumberPadding` | the same without the separators U+001C–001F |
| `isLineEnd` | carriage return and line feed |

`trim` takes the characters of one class off both ends of a text, `trimEnd` off its end only.
Both leave a text alone whose ends are outside the class.
-/

namespace DebugLabels
namespace Text

/-- A blank: white space, a line or paragraph separator, or an information separator. -/
def isBlank (c : Char) : Bool :=
  let n := c.toNat
  (0x09 ≤ n && n ≤ 0x0D) || (0x1C ≤ n && n ≤ 0x20) || n == 0x85 || n == 0xA0 || n == 0x1680 ||
    (0x2000 ≤ n && n ≤ 0x200A) || n == 0x2028 || n == 0x2029 || n == 0x202F || n == 0x205F ||
    n == 0x3000

/-- A character that may surround a number: a blank other than the information separators. -/
def isNumberPadding (c : Char) : Bool :=
  isBlank c && !(0x1C ≤ c.toNat && c.toNat ≤ 0x1F)

/-- Carriage return and line feed end a line. -/
def isLineEnd (c : Char) : Bool := c == '\r' || c == '\n'

/-- What is left of a text without the characters of a class at its end. -/
def trimEnd (p : Char → Bool) (cs : List Char) : List Char :=
  cs.foldr (fun c rest => if rest.isEmpty && p c then [] else c :: rest) []

/-- What is left of a text without the characters of a class at its two ends. -/
def trim (p : Char → Bool) (cs : List Char) : List Char :=
  trimEnd p (cs.dropWhile p)

@[simp] theorem trimEnd_nil (p : Char → Bool) : trimEnd p [] = [] := rfl

theorem trimEnd_cons (p : Char → Bool) (c : Char) (cs : List Char) :
    trimEnd p (c :: cs) =
      if (trimEnd p cs).isEmpty && p c then [] else c :: trimEnd p cs := rfl

@[simp] theorem trim_nil (p : Char → Bool) : trim p [] = [] := rfl

/-- Nothing is left exactly of a text that lies in the class as a whole. -/
theorem trimEnd_eq_nil_iff {p : Char → Bool} {cs : List Char} :
    trimEnd p cs = [] ↔ ∀ c ∈ cs, p c = true := by
  induction cs with
  | nil => simp
  | cons c cs ih =>
    rw [trimEnd_cons]
    by_cases hp : p c = true <;> cases ht : trimEnd p cs <;> simp_all

/-- A text that ends outside the class keeps its end. -/
theorem trimEnd_append_of_not {p : Char → Bool} {c : Char} (h : p c = false) (cs : List Char) :
    trimEnd p (cs ++ [c]) = cs ++ [c] := by
  induction cs with
  | nil => simp [trimEnd_cons, h]
  | cons d cs ih => simp [trimEnd_cons, ih]

/-- Characters of the class at the end do not show. -/
theorem trimEnd_append_of_all {p : Char → Bool} {tail : List Char}
    (h : ∀ c ∈ tail, p c = true) (cs : List Char) : trimEnd p (cs ++ tail) = trimEnd p cs := by
  induction cs with
  | nil => simpa using trimEnd_eq_nil_iff.2 h
  | cons d cs ih => simp [trimEnd_cons, ih]

/-- What is kept is a part of the text. -/
theorem mem_of_mem_trimEnd {p : Char → Bool} {c : Char} {cs : List Char}
    (h : c ∈ trimEnd p cs) : c ∈ cs := by
  induction cs with
  | nil => simp at h
  | cons d cs ih =>
    rw [trimEnd_cons] at h
    split at h
    · simp at h
    · rcases List.mem_cons.1 h with rfl | h
      · simp
      · exact List.mem_cons_of_mem _ (ih h)

/-- The blanks around a word go, the blank inside a text stays. -/
example : trim isBlank ['\t', ' ', 'a', ' ', 'b', '\u3000'] = ['a', ' ', 'b'] := by decide

/-- A zero width space is no blank. -/
example : isBlank '\u200b' = false ∧ isBlank '\u2028' = true := by decide

end Text
end DebugLabels
