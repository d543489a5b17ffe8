import Punctual.Bounds

/-!
Units in which periods and timeouts are given. A day counts as 24 hours here; calendar days are the
business of `SimpleTimer`.
-/
namespace Punctual

/-- The type `TimeUnit`. -/
inductive TimeUnit
  | millis | seconds | minutes | hours | days
deriving DecidableEq, Repr

namespace TimeUnit

/-- The operation `millis_per_unit`: milliseconds in one unit. -/
def length : TimeUnit → Nat
  | millis => 1
  | seconds => 1000
  | minutes => 60000
  | hours => 3600000
  | days => 86400000

/-- The operation `to_millis`: the milliseconds in an amount of the unit, if 64 bits hold them. -/
def toMillis? (unit : TimeUnit) (amount : Int) : Option Int := toInt64? (amount * unit.length)

/-- The operation `to_duration`: the milliseconds in an amount of the unit, or the largest number of 64
bits. -/
def millisOf (unit : TimeUnit) (amount : Nat) : Nat := min (amount * unit.length) maxNat64

/-- All units. -/
def all : List TimeUnit := [millis, seconds, minutes, hours, days]

/-- The word for the unit in records. -/
def name : TimeUnit → String
  | millis => "millis"
  | seconds => "seconds"
  | minutes => "minutes"
  | hours => "hours"
  | days => "days"

/-- The unit that a word names. -/
def ofName? (name : String) : Option TimeUnit := all.find? (·.name == name)

end TimeUnit

end Punctual
