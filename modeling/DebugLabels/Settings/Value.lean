import DebugLabels.Numeral
import DebugLabels.Text.Quoted

/-!
# Values that settings may be given

Settings may come from a source that knows no types. A `Value` is what such a source can hold; its
shown form is what an error says was given in place of a proper setting.

| value | shown |
| --- | --- |
| nothing, truth values | `None`, `True`, `False` |
| an integer | in decimal |
| a decimal fraction | positionally between `0.0001` and `1e+16`, else with an exponent |
| an infinite number, no number | `inf`, `-inf`, `nan` |
| a text | quoted |
| a list, a record | its parts, in brackets or braces |
-/

namespace DebugLabels

/-- What an untyped source can hold. -/
inductive Value
  | nothing
  | truth (value : Bool)
  | integer (value : Int)
  /-- A decimal fraction: a sign, and a number whose last digits stand after the point. A negative
  number of places stands for that many zeros. -/
  | fraction (negative : Bool) (value : Nat) (places : Int)
  | infinite (negative : Bool)
  /-- What an undefined computation gives in place of a number. -/
  | noNumber
  | text (value : String)
  | list (values : List Value)
  | record (fields : List (String × Value))

namespace Value

/-- The digits of a fraction with the point after a number of them, which may be negative or more
than there are. -/
def positional (digits : List Char) (point : Int) : List Char :=
  if point ≤ 0 then ['0', '.'] ++ List.replicate (-point).toNat '0' ++ digits
  else
    let whole := digits.take point.toNat
    let rest := digits.drop point.toNat
    whole ++ List.replicate (point.toNat - digits.length) '0' ++ ['.'] ++
      (if rest.isEmpty then ['0'] else rest)

/-- The digits of a fraction with an exponent of two digits at least. -/
def scientific (digits : List Char) (exponent : Int) : List Char :=
  let mantissa := match digits with
    | first :: next :: rest => first :: '.' :: next :: rest
    | digits => digits
  let sign := if exponent < 0 then '-' else '+'
  mantissa ++ ['e', sign] ++ (Nat.toDigits 10 exponent.natAbs).leftpad 2 '0'

/-- A fraction with no more digits than it needs, but one after the point. -/
def shownFraction (negative : Bool) (value : Nat) (places : Int) : List Char :=
  let written := Nat.toDigits 10 value
  let point : Int := (written.length : Int) - places
  let digits := Text.trimEnd (· == '0') written
  let shown :=
    if value = 0 then positional [] 1
    else if -4 < point ∧ point ≤ 16 then positional digits point
    else scientific digits (point - 1)
  if negative then '-' :: shown else shown

mutual

/-- A value in an error. -/
def shown : Value → String
  | nothing => "None"
  | truth true => "True"
  | truth false => "False"
  | integer value => Numeral.decimal value
  | fraction negative value places => String.ofList (shownFraction negative value places)
  | infinite negative => if negative then "-inf" else "inf"
  | noNumber => "nan"
  | text value => Text.quoted value
  | list values => "[" ++ ", ".intercalate (shownAll values) ++ "]"
  | record fields => "\x7b" ++ ", ".intercalate (shownFields fields) ++ "\x7d"

/-- The parts of a list in an error. -/
def shownAll : List Value → List String
  | [] => []
  | value :: values => shown value :: shownAll values

/-- The parts of a record in an error. -/
def shownFields : List (String × Value) → List String
  | [] => []
  | (key, value) :: fields => (Text.quoted key ++ ": " ++ shown value) :: shownFields fields

end

/-- The point moves with the places; zeros at the end go. -/
example : shownFraction false 150 2 = ['1', '.', '5'] ∧
    shownFraction true 25 4 = ['-', '0', '.', '0', '0', '2', '5'] ∧
    shownFraction true 0 1 = ['-', '0', '.', '0'] ∧
    shownFraction false 15 6 = ['1', '.', '5', 'e', '-', '0', '5'] ∧
    shownFraction false 1 (-16) = ['1', 'e', '+', '1', '6'] := by decide

end Value
end DebugLabels
