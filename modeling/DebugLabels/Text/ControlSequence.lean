/-!
# Text without control sequences

A control sequence tells a terminal to change a colour or to move the cursor. Its parts are, in this
order,

| part | characters | how many |
| --- | --- | --- |
| introducer | escape and `[` | one of each |
| parameters | U+0030–003F | any number |
| intermediates | U+0020–002F | any number |
| final character | U+0040–007E | one |

Output that goes to no terminal is written without such sequences. What only begins like one stays.
-/

namespace DebugLabels
namespace Text

/-- A parameter of a control sequence. -/
def isParameter (c : Char) : Bool := 0x30 ≤ c.toNat && c.toNat ≤ 0x3F

/-- A character between the parameters and the final character. -/
def isIntermediate (c : Char) : Bool := 0x20 ≤ c.toNat && c.toNat ≤ 0x2F

/-- A character that ends a control sequence. -/
def isFinal (c : Char) : Bool := 0x40 ≤ c.toNat && c.toNat ≤ 0x7E

/-- The length of the control sequence at the start of a text, `0` if none starts there. -/
def sequenceLength : List Char → Nat
  | '\x1b' :: '[' :: cs =>
    let parameters := cs.takeWhile isParameter
    let intermediates := (cs.drop parameters.length).takeWhile isIntermediate
    let n := parameters.length + intermediates.length
    if (cs.drop n).head?.any isFinal then n + 3 else 0
  | _ => 0

/-- The text without its control sequences, after the next `skip` characters, which belong to one. -/
def dropSequences : (skip : Nat) → List Char → List Char
  | _, [] => []
  | skip + 1, _ :: cs => dropSequences skip cs
  | 0, c :: cs =>
    match sequenceLength (c :: cs) with
    | 0 => c :: dropSequences 0 cs
    | n + 1 => dropSequences n cs

/-- A text as it is written where there is no terminal. -/
def withoutControlSequences (s : String) : String := String.ofList (dropSequences 0 s.toList)

/-- A text without escape characters is left alone. -/
theorem dropSequences_eq_self {cs : List Char} (h : '\x1b' ∉ cs) : dropSequences 0 cs = cs := by
  induction cs with
  | nil => rfl
  | cons c cs ih =>
    simp only [List.mem_cons, not_or] at h
    have hc : sequenceLength (c :: cs) = 0 := by
      unfold sequenceLength
      split
      · rename_i heq
        exact absurd (List.cons.inj heq).1.symm h.1
      · rfl
    rw [dropSequences, hc, ih h.2]

/-- Dropping sequences only drops characters. -/
theorem dropSequences_sublist (skip : Nat) (cs : List Char) :
    (dropSequences skip cs).Sublist cs := by
  induction cs generalizing skip with
  | nil => cases skip <;> exact .refl _
  | cons c cs ih =>
    cases skip with
    | succ skip => exact (ih skip).cons c
    | zero =>
      unfold dropSequences
      split
      · exact (ih 0).cons_cons c
      · rename_i n _
        exact (ih n).cons c

theorem withoutControlSequences_sublist (s : String) :
    (withoutControlSequences s).toList.Sublist s.toList := by
  rw [withoutControlSequences, String.toList_ofList]
  exact dropSequences_sublist 0 s.toList

theorem withoutControlSequences_eq_self {s : String} (h : '\x1b' ∉ s.toList) :
    withoutControlSequences s = s := by
  rw [withoutControlSequences, dropSequences_eq_self h, String.ofList_toList]

/-- A sequence goes. -/
example : dropSequences 0 ['\x1b', '[', '3', ';', '1', 'm', 'a', '\x1b', '[', '>', ' ', '~', 'b'] =
    ['a', 'b'] := by decide

/-- A parameter after an intermediate, and a sequence without an end: both stay. -/
example : dropSequences 0 ['\x1b', '[', '#', '8', '\x1b', '[', '1'] =
    ['\x1b', '[', '#', '8', '\x1b', '[', '1'] := by decide

end Text
end DebugLabels
