/-!
Binary floating-point numbers of 64 bits, kept as their bits, so that equality is equality of
representations. Sums, products and quotients go through `Float`.
-/
namespace Punctual

/-- A floating-point number of 64 bits. -/
structure Binary64 where
  bits : UInt64
deriving DecidableEq, Repr

namespace Binary64

/-- The bits of a number that the machine computes with. -/
def ofFloat (x : Float) : Binary64 := ⟨x.toBits⟩

/-- The number that the machine computes with. -/
def toFloat (x : Binary64) : Float := Float.ofBits x.bits

/-- A quotient rounded to the nearest whole number, halfway cases to the even one. -/
def roundedQuotient (n d : Nat) : Nat :=
  let twice := 2 * (n % d)
  if twice < d ∨ (twice = d ∧ n / d % 2 = 0) then n / d else n / d + 1

/-- The bits of the number nearest to a whole one. The leading binary digit is left to the exponent;
a significand rounded up to the next power of two carries into it. -/
def bitsOfNat (n : Nat) : Nat :=
  if n = 0 then 0
  else
    let exponent := (n.log2 + 1022) * Nat.pow 2 52
    if n.log2 ≤ 52 then exponent + n * Nat.pow 2 (52 - n.log2)
    else min (exponent + roundedQuotient n (Nat.pow 2 (n.log2 - 52))) (2047 * Nat.pow 2 52)

/-- The nearest number, halfway cases to the even one. -/
def ofInt (n : Int) : Binary64 :=
  ⟨.ofNat ((if n < 0 then Nat.pow 2 63 else 0) + bitsOfNat n.natAbs)⟩

/-- The nearest number to a natural one. -/
def ofNat (n : Nat) : Binary64 := ofInt n

/-- The exponent field: 0 for zero and the subnormal numbers, 2047 for infinities and NaN. -/
def exponentField (x : Binary64) : Nat := x.bits.toNat / Nat.pow 2 52 % 2048

/-- The lower 52 bits. -/
def fractionField (x : Binary64) : Nat := x.bits.toNat % Nat.pow 2 52

/-- The sign bit is set. -/
def isNegative (x : Binary64) : Bool := Nat.pow 2 63 ≤ x.bits.toNat

/-- It is neither an infinity nor a value that stands for no number. -/
def isFinite (x : Binary64) : Bool := x.exponentField ≠ 2047

/-- It stands for no number. -/
def isNaN (x : Binary64) : Bool := x.exponentField = 2047 && x.fractionField ≠ 0

/-- The number is less than one. -/
def isBelowOne (x : Binary64) : Bool :=
  !x.isNaN && (x.isNegative || x.bits.toNat < 1023 * Nat.pow 2 52)

/-- The significand `m` and exponent `q` of the magnitude `m * 2 ^ q`. -/
def magnitude (x : Binary64) : Nat × Int :=
  if x.exponentField = 0 then (x.fractionField, -1074)
  else (x.fractionField + Nat.pow 2 52, (x.exponentField : Int) - 1075)

end Binary64

end Punctual
