/-!
The ranges of the numbers that records hold: signed and unsigned, of 32 and 64 bits. Counters stop at
the end of their range; a product or sum that would leave it has no value.
-/
namespace Punctual

/-- The largest number of 32 bits with a sign. -/
def maxInt32 : Int := 2147483647

/-- The smallest number of 32 bits with a sign. -/
def minInt32 : Int := -2147483648

/-- The largest number of 64 bits with a sign. -/
def maxInt64 : Int := 9223372036854775807

/-- The smallest number of 64 bits with a sign. -/
def minInt64 : Int := -9223372036854775808

/-- The largest number of 32 bits without a sign. -/
def maxNat32 : Nat := 4294967295

/-- The largest number of 64 bits without a sign. -/
def maxNat64 : Nat := 18446744073709551615

/-- The number, if 32 bits hold it. -/
def toInt32? (n : Int) : Option Int := if minInt32 ≤ n ∧ n ≤ maxInt32 then some n else none

/-- The number, if 64 bits hold it. -/
def toInt64? (n : Int) : Option Int := if minInt64 ≤ n ∧ n ≤ maxInt64 then some n else none

/-- One more, up to the largest of 32 bits. -/
def nextInt32 (n : Int) : Int := min (n + 1) maxInt32

/-- One more, up to the largest of 32 bits without a sign. -/
def nextNat32 (n : Nat) : Nat := min (n + 1) maxNat32

end Punctual
