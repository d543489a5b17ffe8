import Punctual.Instant
import Punctual.Zone.Rule

/-!
Time zones and local time. A zone has a first offset and a list of offset changes. A local time is
the reading of a wall clock in the zone; an instant shows as a local time when the offset in force
at that instant is their difference. Near a change a local time may be shown twice or not at all.
-/
namespace Punctual

/-- What a wall clock shows, kept as the instant at which a clock set to UTC shows the same. -/
structure LocalTime where
  reading : Instant
deriving DecidableEq, Repr

/-- Offsets are less than a day, no change moves clocks by more than a day, and changes are at least
three days apart. -/
def OffsetChange.areSteady (offset : Int) (last? : Option Int) : List OffsetChange → Bool
  | [] => true
  | c :: rest =>
    (-86400 < c.offset && c.offset < 86400) &&
      (c.offset - offset ≤ 86400 && offset - c.offset ≤ 86400) &&
      last?.all (· + 3 * 86400 ≤ c.instant) &&
      areSteady c.offset (some c.instant) rest

/-- The offset from UTC through all time. That changes are `steady` is assumed of zones and holds of all
that the database names. -/
structure Zone where
  /-- seconds east of UTC before all changes -/
  initial : Int
  changes : List OffsetChange
  initial_bounded : -86400 < initial ∧ initial < 86400
  steady : OffsetChange.areSteady initial none changes = true

/-- A stretch of time in which one offset is in force: from the start, to just before the stop. -/
structure OffsetSpan where
  start? : Option Int
  stop? : Option Int
  offset : Int
deriving DecidableEq, Repr

namespace OffsetSpan

/-- The second lies in the span. -/
def contains (s : OffsetSpan) (second : Int) : Bool :=
  s.start?.all (· ≤ second) && s.stop?.all (second < ·)

/-- The spans that a list of changes cuts time into. -/
def ofChanges (start? : Option Int) (offset : Int) : List OffsetChange → List OffsetSpan
  | [] => [⟨start?, none, offset⟩]
  | c :: rest => ⟨start?, some c.instant, offset⟩ :: ofChanges (some c.instant) c.offset rest

end OffsetSpan

namespace Zone

/-- The zone with this history, if it is steady. -/
def ofEras? (eras : List Era) : Option Zone :=
  let (initial, changes) := Era.history eras
  if bounded : -86400 < initial ∧ initial < 86400 then
    if steady : OffsetChange.areSteady initial none changes = true then
      some ⟨initial, changes, bounded, steady⟩
    else none
  else none

/-- The spans of a zone, which cover all time. -/
def spans (z : Zone) : List OffsetSpan := OffsetSpan.ofChanges none z.initial z.changes

/-- The offset in force at a second since 1970. -/
def offsetAt (z : Zone) (second : Int) : Int :=
  z.changes.foldl (fun offset c => if c.instant ≤ second then c.offset else offset) z.initial

/-- The local time that an instant shows as. -/
def toLocal (z : Zone) (t : Instant) : LocalTime :=
  ⟨{ t with second := t.second + z.offsetAt t.second }⟩

/-- The offsets under which the zone shows a local time, the earliest instant first. -/
def offsetsShowing (z : Zone) (l : LocalTime) : List Int :=
  (z.spans.filter fun s => s.contains (l.reading.second - s.offset)).map (·.offset)

/-- The operation `resolve_local`: the instant of a local time. One that is shown twice is the earlier one;
one that clocks skip is read with the offset in force a day before, which moves it forward by the length of
the gap. -/
def instantOf? (z : Zone) (l : LocalTime) : Option Instant :=
  match (z.offsetsShowing l).head? with
  | some offset =>
    let t : Instant := { l.reading with second := l.reading.second - offset }
    if t.inRange then some t else none
  | none => do
    let dayBefore ← l.reading.shift? (-86400 * nanosPerSecond)
    let offset ← (z.offsetsShowing ⟨dayBefore⟩).head?
    l.reading.shift? (-offset * nanosPerSecond)

/-- A day has so many seconds on a clock that is never put forward or back. -/
def daysLater? (l : LocalTime) (days : Nat) : Option LocalTime :=
  let moved : Instant := { l.reading with second := l.reading.second + days * 86400 }
  if moved.inRange then some ⟨moved⟩ else none

end Zone

end Punctual
