/-!
Decimal numerals: written with a least number of digits, and read back from the front of a text.
-/
namespace Punctual.Numeral

/-- The decimal digits of a number, at least `width` of them. -/
def padded (width n : Nat) : List Char :=
  let digits := Nat.toDigits 10 n
  List.replicate (width - digits.length) '0' ++ digits

/-- The number that decimal digits spell. -/
def value (digits : List Char) : Nat := Nat.ofDigitChars 10 digits 0

/-- Splits off the leading digits, at most `limit` of them. -/
def span : Nat → List Char → List Char × List Char
  | 0, cs => ([], cs)
  | _, [] => ([], [])
  | limit + 1, c :: cs =>
    if c.isDigit then
      let (digits, rest) := span limit cs
      (c :: digits, rest)
    else ([], c :: cs)

/-- Reads a number of one to `limit` digits. -/
def read? (limit : Nat) (cs : List Char) : Option (Nat × List Char) :=
  match span limit cs with
  | ([], _) => none
  | (digits, rest) => some (value digits, rest)

/-- The number that a text of digits alone spells. -/
def whole? (cs : List Char) : Option Nat :=
  if cs.isEmpty || !cs.all Char.isDigit then none else some (value cs)

/-- The number that digits spell, with or without a sign before them. -/
def signed? : List Char → Option Int
  | '-' :: digits => (whole? digits).map fun n => -(n : Int)
  | '+' :: digits => (whole? digits).map fun n => (n : Int)
  | digits => (whole? digits).map fun n => (n : Int)

/-- A whole number in decimal, with a minus sign below zero. -/
def ofInt (n : Int) : List Char :=
  if n < 0 then '-' :: padded 1 n.natAbs else padded 1 n.natAbs

end Punctual.Numeral
