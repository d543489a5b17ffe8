import Punctual.Binary64
import Punctual.Text.Numeral

/-!
Reading floating-point numbers: a sign, digits with a point among or around them, and a power of ten;
or one of the words for infinity and for no number. The result is the nearest number that there is.
-/
namespace Punctual.Binary64

/-- The value above all numbers. -/
def infinity : Binary64 := ⟨0x7FF0000000000000⟩

/-- A value that stands for no number. -/
def noNumber : Binary64 := ⟨0x7FF8000000000000⟩

/-- Nothing, without a sign. -/
def zero : Binary64 := ⟨0⟩

/-- The number with its sign turned. -/
def neg (x : Binary64) : Binary64 := ⟨x.bits ^^^ 0x8000000000000000⟩

/-- The number nearest to `digits * 10 ^ exponent`. Magnitudes far out of range are told by the number
of digits, so that no power of ten is ever large. -/
def ofDecimal (digits : List Char) (exponent : Int) : Binary64 :=
  let significand := Numeral.value digits
  let point : Int := (Nat.toDigits 10 significand).length + exponent
  if significand = 0 then zero
  else if 400 < point then infinity
  else if point < -400 then zero
  else if 0 ≤ exponent then ofFloat (Float.ofScientific significand false exponent.toNat)
  else ofFloat (Float.ofScientific significand true (-exponent).toNat)

/-- A number without a sign: there is a digit before the point or after it. -/
def unsigned? (cs : List Char) : Option Binary64 := do
  let whole := cs.takeWhile Char.isDigit
  let rest := cs.dropWhile Char.isDigit
  let (fraction, rest) := match rest with
    | '.' :: rest => (rest.takeWhile Char.isDigit, rest.dropWhile Char.isDigit)
    | rest => ([], rest)
  if whole.isEmpty && fraction.isEmpty then none
  let exponent ← match rest with
    | [] => some 0
    | 'e' :: rest | 'E' :: rest => Numeral.signed? rest
    | _ => none
  return ofDecimal (whole ++ fraction) (exponent - fraction.length)

/-- The number that a text spells; the words may be in capitals. -/
def ofText? (cs : List Char) : Option Binary64 :=
  let (negative, cs) := match cs with
    | '-' :: rest => (true, rest)
    | '+' :: rest => (false, rest)
    | rest => (false, rest)
  let word := String.ofList (cs.map Char.toLower)
  let magnitude? :=
    if word = "inf" ∨ word = "infinity" then some infinity
    else if word = "nan" then some noNumber
    else unsigned? cs
  magnitude?.map fun x => if negative then x.neg else x

end Punctual.Binary64
