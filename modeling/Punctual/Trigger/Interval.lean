import Punctual.Bounds
import Punctual.Instant

/-!
Interval triggers: firings at a fixed distance from each other, counted from a start. The k-th
occurrence is `start + k * period`, so that a late firing does not delay the ones after it. A limit
on the number of firings and a last instant may end the sequence.
-/
namespace Punctual

/-- The type `IntervalTrigger`. -/
structure Interval where
  start : Instant
  /-- no firing after this instant -/
  stop? : Option Instant
  /-- firings in all; zero or less for any number -/
  limit : Int
  /-- firings so far, or the index reached by skipping -/
  count : Int
  periodMs : Int
  /-- the firing that comes next -/
  next? : Option Instant
deriving DecidableEq, Repr

namespace Interval

/-- The operation `limit_reached`: the limit leaves no firing after this many. -/
def isLimitReached (t : Interval) (count : Int) : Bool := 0 < t.limit && t.limit ≤ count

/-- The instant comes after the last one. -/
def isPastStop (t : Interval) (instant : Instant) : Bool := t.stop?.any (· < instant)

/-- The operation `occurrence`: the k-th occurrence, if it lies in the range of instants. -/
def occurrence? (t : Interval) (k : Int) : Option Instant := do
  let offset ← toInt64? (t.periodMs * k)
  if offset = minInt64 then none else t.start.shift? (offset * nanosPerMilli)

/-- The k-th occurrence, unless the limit or the last instant rules it out. -/
def pending? (t : Interval) (k : Int) : Option Instant :=
  if t.isLimitReached k then none else (t.occurrence? k).filter fun instant => !t.isPastStop instant

/-- The operation `advance`: takes the firing that comes next and answers its instant and the trigger after
it. -/
def advance (t : Interval) : Option Instant × Interval :=
  match t.next? with
  | none => (none, t)
  | some current =>
    if t.isLimitReached t.count || t.isPastStop current then (none, { t with next? := none })
    else
      let count := nextInt32 t.count
      (some current, { t with count, next? := t.pending? count })

/-- The index of the first occurrence at or after a threshold, found by dividing whole milliseconds;
one that 32 bits do not hold counts as the largest. -/
def indexAt (t : Interval) (threshold : Instant) : Int :=
  let elapsed := (threshold.since t.start).tdiv nanosPerMilli
  (toInt32? (elapsed / t.periodMs + if elapsed % t.periodMs = 0 then 0 else 1)).getD maxInt32

/-- The operation `skip_until`: passes over the firings before the threshold; they count towards the limit.
There is no answer when the period is zero and firings would have to be passed over. -/
def skipUntil? (t : Interval) (threshold : Instant) : Option Interval :=
  match t.next? with
  | none => some t
  | some current =>
    if threshold ≤ current then some t
    else if t.periodMs = 0 then none
    else
      let count := max (t.indexAt threshold) t.count
      some { t with count, next? := t.pending? count }

end Interval

end Punctual
