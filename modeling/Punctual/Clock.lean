import Punctual.Instant

/-!
The clock. It counts whole milliseconds from a start; timers keep deadlines to the nanosecond and
elapse at the first reading that is not before the deadline.
-/
namespace Punctual

/-- A clock, by its start and what it has counted since. -/
structure Clock where
  start : Instant
  elapsedMs : Nat
deriving DecidableEq, Repr

namespace Clock

/-- The instant that the clock shows. -/
def now (c : Clock) : Instant := c.start.shift (c.elapsedMs * nanosPerMilli)

/-- The first reading at which a length of time from now has passed. -/
def readingAfter (c : Clock) (nanos : Nat) : Nat :=
  c.elapsedMs + (nanos + (nanosPerMilli - 1)) / nanosPerMilli

/-- At the reading, or further on already. -/
def movedTo (c : Clock) (elapsedMs : Nat) : Clock := { c with elapsedMs := max c.elapsedMs elapsedMs }

end Clock

end Punctual
