import Punctual.TimeUnit
import Punctual.Zone.Database

/-!
Simple timers: firings every so many units of time. A day is a calendar day in the timer's zone, so
that a daily firing keeps its local time when clocks change. Every occurrence is found from the start
on its own, so that a firing moved by a clock change does not move the ones after it.

To count days from a start without a local time in the range of instants is to break off: an occurrence,
and whatever needs it, then has no answer at all, which is not the answer that there is no occurrence.
-/
namespace Punctual

/-- The type `SimpleTimer`. -/
structure SimpleTimer where
  start : Instant
  period : Int
  unit : TimeUnit
  /-- firings after the first; below zero for any number -/
  repetitions : Int
  /-- no firing after this instant -/
  stop? : Option Instant
  zoneName : String
  /-- the firing that comes next -/
  next? : Option Instant
  /-- the index of that firing, the first having index zero -/
  index : Int
  /-- no firing is left -/
  ended : Bool
deriving DecidableEq, Repr

namespace SimpleTimer

/-- The operation `zone`: the zone of the timer's name. -/
def zone? (t : SimpleTimer) : Option Zone := Zone.named? t.zoneName

/-- The operation `repetitions_exhausted`: the repetitions leave no firing with this index. -/
def isExhausted (t : SimpleTimer) (index : Int) : Bool :=
  0 ≤ t.repetitions && t.repetitions < index

/-- The instant comes after the last one. -/
def isPastStop (t : SimpleTimer) (instant : Instant) : Bool := t.stop?.any (· < instant)

/-- The instant so many calendar days after the start, at the start's local time. There is no answer at
all when the start has no local time in the range of instants, before any day is counted. -/
def daysAfterStart? (t : SimpleTimer) (zone : Zone) (days : Int) : Option (Option Instant) :=
  let startLocal := zone.toLocal t.start
  if !startLocal.reading.inRange then none
  else if days < 0 then some none
  else some ((Zone.daysLater? startLocal days.toNat).bind zone.instantOf?)

/-- The instant so many units of fixed length after the start. -/
def unitsAfterStart? (t : SimpleTimer) (steps : Int) : Option Instant := do
  let offset ← t.unit.toMillis? steps
  if offset = minInt64 then none else t.start.shift? (offset * nanosPerMilli)

/-- The operation `occurrence`: the k-th occurrence, if it lies in the range of instants. Counted in
days, it may have no answer at all. -/
def occurrence? (t : SimpleTimer) (k : Int) : Option (Option Instant) :=
  match toInt64? (t.period * k) with
  | none => some none
  | some steps =>
    match t.unit with
    | .days =>
      match t.zone? with
      | none => some none
      | some zone => t.daysAfterStart? zone steps
    | _ => some (t.unitsAfterStart? steps)

/-- The timer waiting for the given firing, unless it comes after the last instant. -/
def awaiting (t : SimpleTimer) (index : Int) (next? : Option Instant) : SimpleTimer :=
  let next? := next?.filter fun instant => !t.isPastStop instant
  { t with index, next?, ended := next?.isNone }

/-- The occurrence with an index, if the repetitions leave a firing with it. -/
def following? (t : SimpleTimer) (index : Int) : Option (Option Instant) :=
  if t.isExhausted index then some none else t.occurrence? index

/-- The operation `advance`: takes the firing that comes next and answers its instant and the timer after
it. Breaks off where the next occurrence has no answer. -/
def advance? (t : SimpleTimer) : Option (Option Instant × SimpleTimer) :=
  match t.next? with
  | none => some (none, t)
  | some current =>
    if t.isPastStop current then some (none, { t with next? := none, ended := true })
    else
      let index := nextInt32 t.index
      (t.following? index).map fun next? => (some current, t.awaiting index next?)

/-- The length of a period in milliseconds when no clock changes; at least one, at most the largest
number of 64 bits. -/
def nominalMs (t : SimpleTimer) : Int := max ((t.unit.toMillis? t.period).getD maxInt64) 1

/-- Where the search for a threshold starts: one period before its nominal place, because clock
changes move occurrences, and never before the firing that comes next. -/
def searchStart (t : SimpleTimer) (threshold : Instant) : Int :=
  let elapsed := (threshold.since t.start).tdiv nanosPerMilli
  max ((toInt32? (elapsed.tdiv t.nominalMs - 1)).getD maxInt32) t.index

/-- Looks for the first occurrence at or after the threshold, from an index on and at most so many
indices further. Answers where the search ended, and the occurrence if it found one. Breaks off where an
occurrence has no answer. -/
def search? (t : SimpleTimer) (threshold : Instant) : Nat → Int → Option (Int × Option Instant)
  | more, index =>
    if t.isExhausted index then some (index, none)
    else
      match t.occurrence? index with
      | none => none
      | some none => some (index, none)
      | some (some instant) =>
        if threshold ≤ instant then some (index, some instant)
        else
          match more with
          | 0 => some (index, none)
          | more + 1 => search? t threshold more (index + 1)

/-- The search for a threshold, from where it starts to the largest index. -/
def found? (t : SimpleTimer) (threshold : Instant) : Option (Int × Option Instant) :=
  let start := t.searchStart threshold
  t.search? threshold (maxInt32 - start).toNat start

/-- The operation `skip_until`: passes over the firings before the threshold; they count as repetitions.
Breaks off where the search does. -/
def skipUntil? (t : SimpleTimer) (threshold : Instant) : Option SimpleTimer :=
  match t.next? with
  | none => some t
  | some current =>
    if threshold ≤ current then some t
    else (t.found? threshold).map fun (index, next?) => t.awaiting index next?

/-- The start shows as a local time in the range, wherever days are counted in a zone that is known. -/
def startShows (t : SimpleTimer) : Bool :=
  t.unit != .days || t.zone?.all fun zone => (zone.toLocal t.start).reading.inRange

end SimpleTimer

end Punctual
