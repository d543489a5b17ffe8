import Punctual.Calendar

/-!
Points in time, to the nanosecond. Seconds are counted from 1970 as if there were no leap seconds; an
instant inside a leap second carries its nanoseconds past one second, and sorts before the second
that follows. Lengths of time are integers counting nanoseconds.
-/
namespace Punctual

/-- A point in time. -/
structure Instant where
  /-- seconds since 1970-01-01T00:00:00Z -/
  second : Int
  /-- below one second, or below two within a leap second -/
  nano : Nat
deriving DecidableEq, Repr

/-- Nanoseconds in a second. -/
def nanosPerSecond : Nat := 1000000000

/-- Nanoseconds in a millisecond. -/
def nanosPerMilli : Nat := 1000000

namespace Instant

instance : LT Instant where
  lt a b := a.second < b.second ∨ (a.second = b.second ∧ a.nano < b.nano)

instance : LE Instant where
  le a b := ¬ b < a

instance (a b : Instant) : Decidable (a < b) :=
  inferInstanceAs (Decidable (a.second < b.second ∨ (a.second = b.second ∧ a.nano < b.nano)))

instance (a b : Instant) : Decidable (a ≤ b) :=
  inferInstanceAs (Decidable (¬ b < a))

instance : Max Instant where
  max a b := if a < b then b else a

theorem lt_def {a b : Instant} :
    a < b ↔ a.second < b.second ∨ (a.second = b.second ∧ a.nano < b.nano) := Iff.rfl

theorem le_def {a b : Instant} :
    a ≤ b ↔ a.second < b.second ∨ (a.second = b.second ∧ a.nano ≤ b.nano) := by
  show ¬ (b.second < a.second ∨ (b.second = a.second ∧ b.nano < a.nano)) ↔ _
  omega

/-- The instant lies within a leap second. -/
def isLeap (t : Instant) : Bool := nanosPerSecond ≤ t.nano

/-- The first and the last second of the years -262143 to 262142. -/
def firstSecond : Int := -8334601228800

/-- The last second in the range, counted from 1970. -/
def lastSecond : Int := 8210266876799

/-- The instant lies in the range. -/
def inRange (t : Instant) : Bool := firstSecond ≤ t.second && t.second ≤ lastSecond

/-- The earliest instant. -/
def earliest : Instant := ⟨firstSecond, 0⟩

/-- The latest instant that is no leap second. -/
def latest : Instant := ⟨lastSecond, nanosPerSecond - 1⟩

/-- The instant so many nanoseconds after 1970-01-01T00:00:00Z, outside leap seconds. -/
def ofNanos (n : Int) : Instant :=
  ⟨n / nanosPerSecond, (n % nanosPerSecond).toNat⟩

/-- Nanoseconds since 1970; an instant in a leap second counts like one in the second after it. -/
def toNanos (t : Instant) : Int := t.second * nanosPerSecond + t.nano

/-- The instant a length of time later, in range or not. Within a leap second, a move of less than
the distance to its ends stays there; a move past its end counts the leap second, a move back to
before its start does not. -/
def shift (t : Instant) (length : Int) : Instant :=
  if t.isLeap then
    if 2 * (nanosPerSecond : Int) ≤ t.nano + length then
      ofNanos (t.toNanos - nanosPerSecond + length)
    else if (nanosPerSecond : Int) ≤ t.nano + length then
      ⟨t.second, (t.nano + length).toNat⟩
    else ofNanos (t.toNanos + length)
  else ofNanos (t.toNanos + length)

/-- The instant a length of time later, unless it leaves the range. -/
def shift? (t : Instant) (length : Int) : Option Instant :=
  let moved := t.shift length
  if moved.inRange then some moved else none

/-- The length of time from `earlier` to `t`. A leap second counts when the later time of day lies
after it; only times of day are compared for that, not dates. -/
def since (t earlier : Instant) : Int :=
  let timeOfDay := t.second % 86400
  let timeOfDayThen := earlier.second % 86400
  let counted : Int :=
    if timeOfDayThen < timeOfDay then if earlier.isLeap then 1 else 0
    else if timeOfDay < timeOfDayThen then if t.isLeap then -1 else 0
    else 0
  t.toNanos - earlier.toNanos + counted * nanosPerSecond

/-- The operation `instant_after`: the instant a length of time later, or the latest one. -/
def after (t : Instant) (length : Int) : Instant := (t.shift? length).getD latest

end Instant

end Punctual
