import Punctual.Text.Numeral

/-!
Lengths of time as text: a number of the largest unit that leaves a whole part, with as many fraction
digits as the length needs.
-/
namespace Punctual.Text

/-- The digits after the point: a numerator over a power of ten, without zeros at the end. -/
def fractionDigits (width : Nat) (n : Nat) : List Char :=
  ((Numeral.padded width n).reverse.dropWhile (· = '0')).reverse

/-- A whole part and a fraction. -/
def pointed (whole : Nat) (width : Nat) (fraction : Nat) : List Char :=
  Numeral.padded 1 whole ++
    if fraction = 0 then [] else '.' :: fractionDigits width fraction

/-- A number of nanoseconds: `0ns`, `1.5ms`, `60s`. -/
def lengthText (nanos : Nat) : List Char :=
  if 1000000000 ≤ nanos then pointed (nanos / 1000000000) 9 (nanos % 1000000000) ++ ['s']
  else if 1000000 ≤ nanos then pointed (nanos / 1000000) 6 (nanos % 1000000) ++ ['m', 's']
  else if 1000 ≤ nanos then pointed (nanos / 1000) 3 (nanos % 1000) ++ ['µ', 's']
  else Numeral.padded 1 nanos ++ ['n', 's']

end Punctual.Text
