import Punctual.Binary64
import Punctual.Text.Numeral

/-!
The decimal text of a floating-point number: the fewest digits that read back as the same number,
and of those the nearest to it. JSON and messages lay these digits out in different ways.
-/
namespace Punctual.Binary64

/-- A positive decimal: `digits * 10 ^ exponent`. -/
structure Decimal where
  digits : Nat
  exponent : Int
deriving DecidableEq, Repr

/-- A positive fraction, as numerator and denominator. -/
def scale (n : Nat) (base : Nat) (exponent : Int) : Nat × Nat :=
  if 0 ≤ exponent then (n * Nat.pow base exponent.toNat, 1) else (n, Nat.pow base (-exponent).toNat)

/-- The number of digits before the point; zero or less when the fraction begins after it. -/
def integerDigits (num den : Nat) : Int :=
  if den ≤ num then (Nat.toDigits 10 (num / den)).length
  else 1 - (((List.range 400).find? fun j => den ≤ num * Nat.pow 10 j).getD 400 : Nat)

/-- Without zeros at the end. -/
def Decimal.trim : Nat → Decimal → Decimal
  | 0, d => d
  | more + 1, d =>
    if d.digits ≠ 0 ∧ d.digits % 10 = 0 then trim more ⟨d.digits / 10, d.exponent + 1⟩ else d

/-- The fraction is in the range of decimals that round to the number: four times the range's
ends are given, and whether the ends belong to it. -/
def isBetween (low high : Nat) (ends : Bool) (q : Int) (d : Decimal) : Bool :=
  let (num, den) := scale d.digits 10 d.exponent
  let (lowNum, lowDen) := scale low 2 (q - 2)
  let (highNum, highDen) := scale high 2 (q - 2)
  if ends then lowNum * den ≤ num * lowDen && num * highDen ≤ highNum * den
  else lowNum * den < num * lowDen && num * highDen < highNum * den

/-- The decimal with the fewest digits, at most 17, that rounds to `m * 2 ^ q`, and of these the
nearest. Between two powers of two the neighbours are equally far; below a power of two they are
half as far as above. -/
def shortest (m : Nat) (q : Int) : Decimal :=
  let (num, den) := scale m 2 q
  let before := integerDigits num den
  let low := if m = Nat.pow 2 52 ∧ -1074 < q then 4 * m - 1 else 4 * m - 2
  let accepts := isBetween low (4 * m + 2) (m % 2 = 0) q
  let candidate (n : Nat) : Option Decimal :=
    let exponent := before - n
    let (p, r) := scale 1 10 exponent
    let floor := num * r / (den * p)
    let below : Decimal := ⟨floor, exponent⟩
    let above : Decimal := ⟨floor + 1, exponent⟩
    let twice := 2 * num * r
    let middle := (2 * floor + 1) * den * p
    let nearer := twice < middle || (twice == middle && floor % 2 == 0)
    match accepts below, accepts above with
    | true, true => some (if nearer then below else above)
    | true, false => some below
    | false, true => some above
    | false, false => none
  (((List.range 17).findSome? fun n => candidate (n + 1)).getD ⟨m, q⟩).trim 20

/-- Digits with a point among them, or zeros around them, without an exponent. -/
def positional (digits : List Char) (exponent : Int) (whole : List Char) : List Char :=
  let point := digits.length + exponent
  if 0 ≤ exponent then digits ++ List.replicate exponent.toNat '0' ++ whole
  else if 0 < point then digits.take point.toNat ++ '.' :: digits.drop point.toNat
  else '0' :: '.' :: (List.replicate (-point).toNat '0' ++ digits)

/-- The sign, then the magnitude laid out by `layout`; zero is laid out by its one digit. -/
def textBy (layout : List Char → Int → List Char) (x : Binary64) : List Char :=
  let (m, q) := x.magnitude
  let body :=
    if m = 0 then layout ['0'] 0
    else
      let d := shortest m q
      layout (Nat.toDigits 10 d.digits) d.exponent
  if x.isNegative then '-' :: body else body

/-- In JSON a number has a point or an exponent; the exponent form begins at 10^16 and below 10^-5. -/
def jsonText (x : Binary64) : List Char :=
  x.textBy fun digits exponent =>
    let point := digits.length + exponent
    if -5 < point ∧ point ≤ 16 then positional digits exponent ['.', '0']
    else
      let rest := match digits with
        | first :: second :: more => first :: '.' :: second :: more
        | few => few
      rest ++ 'e' :: Numeral.ofInt (point - 1)

/-- In messages a number never has an exponent, and a point only before a fraction. -/
def messageText (x : Binary64) : List Char :=
  if x.isNaN then "NaN".toList
  else if !x.isFinite then (if x.isNegative then "-inf" else "inf").toList
  else x.textBy fun digits exponent => positional digits exponent []

end Punctual.Binary64
