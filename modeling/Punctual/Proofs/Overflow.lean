import Punctual.Proofs.Occurrences
import Punctual.Proofs.Readings

/-!
Triggers in numbers of 64 and 32 bits. The library calculates with unbounded integers; here is skipping as
it is when every quotient, sum and difference must fit and no divisor may be zero. For a trigger that was
read from a record the two agree, and both taking and skipping have answers, as long as an interval has a
period other than zero and the start of a simple timer is two days within the range of instants.
-/
namespace Punctual

/-- More milliseconds than there are from the first to the last instant. -/
def spanMs : Nat := 20000000000000000

theorem toInt64_of_natAbs_le {n : Int} (bound : n.natAbs ≤ spanMs + 1) : toInt64? n = some n := by
  have fits : minInt64 ≤ n ∧ n ≤ maxInt64 := by
    unfold spanMs at bound
    unfold minInt64 maxInt64
    omega
  exact if_pos fits

/-- The whole milliseconds between two instants. -/
theorem Instant.natAbs_since_le {a b : Instant} (valid : a.Valid) (valid' : b.Valid) :
    ((a.since b).tdiv nanosPerMilli).natAbs ≤ spanMs := by
  obtain ⟨within, nano⟩ := valid
  obtain ⟨within', nano'⟩ := valid'
  simp only [inRange, Bool.and_eq_true, decide_eq_true_eq] at within within'
  simp only [firstSecond, lastSecond, nanosPerSecond] at within within' nano nano'
  have counted : ∀ counted : Int, -1 ≤ counted → counted ≤ 1 →
      (a.toNanos - b.toNanos + counted * nanosPerSecond).natAbs ≤ spanMs * nanosPerMilli := by
    intro counted low high
    simp only [toNanos, nanosPerSecond, spanMs, nanosPerMilli]
    omega
  have nanos : (a.since b).natAbs ≤ spanMs * nanosPerMilli := by
    simp only [since]
    refine counted _ ?_ ?_
    · split
      · split <;> decide
      · split
        · split <;> decide
        · decide
    · split
      · split <;> decide
      · split
        · split <;> decide
        · decide
  rw [Int.natAbs_tdiv]
  exact Nat.div_le_of_le_mul (by rw [Nat.mul_comm]; exact nanos)

/-! ## Intervals -/

namespace Interval

variable {t : Interval} {threshold : Instant}

/-- The index at a threshold, unless a divisor is zero or a number does not fit. -/
def checkedIndex? (t : Interval) (threshold : Instant) : Option Int := do
  let elapsed ← toInt64? ((threshold.since t.start).tdiv nanosPerMilli)
  if t.periodMs = 0 then none
  else
    let quotient ← toInt64? (elapsed / t.periodMs)
    let index ← toInt64? (quotient + if elapsed % t.periodMs = 0 then 0 else 1)
    return (toInt32? index).getD maxInt32

/-- Passes over the firings before the threshold, unless a divisor is zero or a number does not fit. -/
def checkedSkip? (t : Interval) (threshold : Instant) : Option Interval :=
  match t.next? with
  | none => some t
  | some current =>
    if threshold ≤ current then some t
    else (t.checkedIndex? threshold).map fun index =>
      let count := max index t.count
      { t with count, next? := t.pending? count }

theorem checkedIndex_eq (start : t.start.Valid) (reading : threshold.Valid) (divides : t.periodMs ≠ 0) :
    t.checkedIndex? threshold = some (t.indexAt threshold) := by
  have elapsed := Instant.natAbs_since_le reading start
  unfold checkedIndex? indexAt
  generalize (threshold.since t.start).tdiv nanosPerMilli = passed at elapsed ⊢
  have quotient : (passed / t.periodMs).natAbs ≤ spanMs :=
    Nat.le_trans (Int.natAbs_ediv_le_natAbs ..) elapsed
  have index : (passed / t.periodMs + if passed % t.periodMs = 0 then 0 else 1).natAbs ≤ spanMs + 1 := by
    split <;> omega
  have fits := toInt64_of_natAbs_le (Nat.le_succ_of_le elapsed)
  have fits' := toInt64_of_natAbs_le (Nat.le_succ_of_le quotient)
  have fits'' := toInt64_of_natAbs_le index
  simp only [fits, fits', fits'', divides, Option.bind_eq_bind, Option.bind_some, ↓reduceIte,
    Option.pure_def]

theorem checkedSkip_eq (start : t.start.Valid) (reading : threshold.Valid) (divides : t.periodMs ≠ 0) :
    t.checkedSkip? threshold = t.skipUntil? threshold := by
  unfold checkedSkip? skipUntil?
  rw [checkedIndex_eq start reading divides]
  cases t.next? with
  | none => rfl
  | some current => simp [divides]

/-- Only a period of zero keeps firings from being passed over. -/
theorem skip_answers (divides : t.periodMs ≠ 0) (threshold : Instant) :
    ∃ after, t.skipUntil? threshold = some after ∧ after.start = t.start ∧
      after.periodMs = t.periodMs := by
  unfold skipUntil?
  split
  · exact ⟨t, rfl, rfl, rfl⟩
  · rename_i current _
    by_cases reached : threshold ≤ current
    · exact ⟨t, if_pos reached, rfl, rfl⟩
    · rw [if_neg reached, if_neg divides]
      exact ⟨_, rfl, rfl, rfl⟩

theorem advance_keeps (t : Interval) :
    t.advance.2.start = t.start ∧ t.advance.2.periodMs = t.periodMs := by
  unfold advance
  split
  · exact ⟨rfl, rfl⟩
  split <;> exact ⟨rfl, rfl⟩

end Interval

/-! ## Simple timers -/

/-- Two days within the range of instants. -/
structure Instant.WellInside (t : Instant) : Prop where
  first : firstSecond + 2 * 86400 ≤ t.second
  last : t.second ≤ lastSecond - 2 * 86400

namespace SimpleTimer

variable {t after : SimpleTimer} {threshold : Instant}

/-- Where the search starts, unless a divisor is zero or a number does not fit. -/
def checkedStart? (t : SimpleTimer) (threshold : Instant) : Option Int := do
  let elapsed ← toInt64? ((threshold.since t.start).tdiv nanosPerMilli)
  if t.nominalMs = 0 then none
  else
    let quotient ← toInt64? (elapsed.tdiv t.nominalMs)
    let index ← toInt64? (quotient - 1)
    return max ((toInt32? index).getD maxInt32) t.index

/-- The search, unless an occurrence has no answer or an index does not fit. -/
def checkedSearch? (t : SimpleTimer) (threshold : Instant) : Nat → Int → Option (Int × Option Instant)
  | more, index =>
    if t.isExhausted index then some (index, none)
    else
      match t.occurrence? index with
      | none => none
      | some none => some (index, none)
      | some (some instant) =>
        if threshold ≤ instant then some (index, some instant)
        else
          match more with
          | 0 => some (index, none)
          | more + 1 => (toInt32? (index + 1)).bind (checkedSearch? t threshold more)

/-- The search for a threshold, unless any of it has no answer. -/
def checkedFound? (t : SimpleTimer) (threshold : Instant) : Option (Int × Option Instant) := do
  let start ← t.checkedStart? threshold
  t.checkedSearch? threshold (maxInt32 - start).toNat start

/-- Passes over the firings before the threshold, unless any of it has no answer. -/
def checkedSkip? (t : SimpleTimer) (threshold : Instant) : Option SimpleTimer :=
  match t.next? with
  | none => some t
  | some current =>
    if threshold ≤ current then some t
    else (t.checkedFound? threshold).map fun (index, next?) => t.awaiting index next?

/-- Local time is less than a day away, so a start well inside the range shows. -/
theorem startShows_of_wellInside (start : t.start.WellInside) : t.startShows = true := by
  have shows : ∀ zone : Zone, (zone.toLocal t.start).reading.inRange = true := by
    intro zone
    have near := zone.offsetAt_bounded t.start.second
    have first := start.first
    have last := start.last
    simp only [Instant.inRange, Bool.and_eq_true, decide_eq_true_eq]
    simp only [Zone.toLocal]
    omega
  unfold startShows
  cases t.zone? with
  | none => simp
  | some zone => simp [shows zone]

theorem checkedStart_eq (start : t.start.Valid) (reading : threshold.Valid) :
    t.checkedStart? threshold = some (t.searchStart threshold) := by
  have elapsed := Instant.natAbs_since_le reading start
  have positive : t.nominalMs ≠ 0 := by
    have least : 1 ≤ t.nominalMs := Int.le_max_right ..
    omega
  unfold checkedStart? searchStart
  generalize (threshold.since t.start).tdiv nanosPerMilli = passed at elapsed ⊢
  have quotient : (passed.tdiv t.nominalMs).natAbs ≤ spanMs := by
    rw [Int.natAbs_tdiv]
    exact Nat.le_trans (Nat.div_le_self ..) elapsed
  have index : (passed.tdiv t.nominalMs - 1).natAbs ≤ spanMs + 1 := by omega
  have fits := toInt64_of_natAbs_le (Nat.le_succ_of_le elapsed)
  have fits' := toInt64_of_natAbs_le (Nat.le_succ_of_le quotient)
  have fits'' := toInt64_of_natAbs_le index
  simp [fits, fits', fits'', positive]

/-- The search ends before its index could leave 32 bits. -/
theorem checkedSearch_eq (threshold : Instant) (more : Nat) (index : Int) (low : minInt32 ≤ index)
    (high : index + more ≤ maxInt32) :
    t.checkedSearch? threshold more index = t.search? threshold more index := by
  induction more generalizing index with
  | zero =>
    unfold checkedSearch? search?
    rfl
  | succ more ih =>
    have fits : toInt32? (index + 1) = some (index + 1) := if_pos ⟨by omega, by omega⟩
    have onward := ih (index + 1) (by omega) (by omega)
    unfold checkedSearch? search?
    cases t.occurrence? index with
    | none => rfl
    | some occurrence? =>
      cases occurrence? with
      | none => rfl
      | some instant => simp only [fits, Option.bind_some, onward]

theorem searchStart_bounds (index : minInt32 ≤ t.index ∧ t.index ≤ maxInt32) (threshold : Instant) :
    minInt32 ≤ t.searchStart threshold ∧ t.searchStart threshold ≤ maxInt32 := by
  have onward : t.index ≤ t.searchStart threshold := Int.le_max_right ..
  have within : t.searchStart threshold ≤ maxInt32 := Int.max_le.mpr ⟨toInt32_getD_le _, index.2⟩
  exact ⟨Int.le_trans index.1 onward, within⟩

theorem checkedSkip_eq (start : t.start.Valid) (index : minInt32 ≤ t.index ∧ t.index ≤ maxInt32)
    (reading : threshold.Valid) : t.checkedSkip? threshold = t.skipUntil? threshold := by
  obtain ⟨low, high⟩ := searchStart_bounds index threshold
  have found : t.checkedFound? threshold = t.found? threshold := by
    unfold checkedFound? found?
    rw [checkedStart_eq start reading]
    exact checkedSearch_eq threshold _ _ low (by omega)
  unfold checkedSkip? skipUntil?
  cases t.next? with
  | none => rfl
  | some current => simp only [found]

/-- Passing over firings keeps the start and an index of 32 bits. -/
theorem skip_keeps (index : minInt32 ≤ t.index ∧ t.index ≤ maxInt32)
    (skipped : t.skipUntil? threshold = some after) :
    after.start = t.start ∧ minInt32 ≤ after.index ∧ after.index ≤ maxInt32 := by
  by_cases unmissed : ∀ current, t.next? = some current → threshold ≤ current
  · rw [skip_unmissed unmissed] at skipped
    cases skipped
    exact ⟨rfl, index⟩
  · obtain ⟨current, next, missed⟩ : ∃ current, t.next? = some current ∧ current < threshold := by
      simpa using unmissed
    rw [skip_missed next missed] at skipped
    obtain ⟨result, searched, rfl⟩ := Option.map_eq_some_iff.mp skipped
    obtain ⟨low, high⟩ := searchStart_bounds index threshold
    obtain ⟨onward, within, _⟩ := search_found searched
    have low' := Int.le_trans low onward
    have high' := Int.le_trans within (by omega : _ ≤ maxInt32)
    exact ⟨rfl, low', high'⟩

theorem advance_keeps (index : minInt32 ≤ t.index ∧ t.index ≤ maxInt32) {taken? : Option Instant}
    (advances : t.advance? = some (taken?, after)) :
    after.start = t.start ∧ minInt32 ≤ after.index ∧ after.index ≤ maxInt32 := by
  have counted : minInt32 ≤ nextInt32 t.index ∧ nextInt32 t.index ≤ maxInt32 := by
    simp only [nextInt32, minInt32, maxInt32] at index ⊢
    omega
  unfold advance? at advances
  split at advances
  · cases advances
    exact ⟨rfl, index⟩
  split at advances
  · cases advances
    exact ⟨rfl, index⟩
  · obtain ⟨next?, _, same⟩ := Option.map_eq_some_iff.mp advances
    cases same
    exact ⟨rfl, counted⟩

end SimpleTimer

/-! ## Triggers -/

namespace Trigger

/-- Passes over the firings before the threshold, unless that has no answer. -/
def checkedSkip? (threshold : Instant) : Trigger → Option Trigger
  | pointInTime next? => some (.pointInTime (next?.filter (threshold ≤ ·)))
  | interval t => (t.checkedSkip? threshold).map .interval
  | simpleTimer t => (t.checkedSkip? threshold).map .simpleTimer

/-- A trigger of which every calculation has an answer. -/
inductive Usable : Trigger → Prop
  | pointInTime (next? : Option Instant) : Usable (.pointInTime next?)
  | interval {t : Interval} (start : t.start.Valid) (divides : t.periodMs ≠ 0) : Usable (.interval t)
  | simpleTimer {t : SimpleTimer} (start : t.start.Valid) (inside : t.start.WellInside)
    (index : minInt32 ≤ t.index ∧ t.index ≤ maxInt32) : Usable (.simpleTimer t)

/-- What reading a record does not make sure of. -/
inductive Startable : Trigger → Prop
  | pointInTime (next? : Option Instant) : Startable (.pointInTime next?)
  | interval {t : Interval} (divides : t.periodMs ≠ 0) : Startable (.interval t)
  | simpleTimer {t : SimpleTimer} (inside : t.start.WellInside) : Startable (.simpleTimer t)

variable {t after : Trigger} {threshold : Instant} {taken? : Option Instant}

theorem Startable.usable (startable : t.Startable) (read : t.Read) : t.Usable := by
  cases startable with
  | pointInTime next? => exact .pointInTime next?
  | interval divides =>
    cases read with
    | interval start => exact .interval start divides
  | simpleTimer inside =>
    cases read with
    | simpleTimer start index => exact .simpleTimer start inside index

theorem Usable.startShows (usable : t.Usable) : t.startShows = true := by
  cases usable with
  | pointInTime next? => rfl
  | interval _ _ => rfl
  | simpleTimer _ inside _ => exact SimpleTimer.startShows_of_wellInside inside

theorem Usable.checkedSkip_eq (usable : t.Usable) (reading : threshold.Valid) :
    t.checkedSkip? threshold = t.skipUntil? threshold := by
  cases usable with
  | pointInTime next? => rfl
  | interval start divides =>
    simp only [checkedSkip?, skipUntil?, Interval.checkedSkip_eq start reading divides]
  | simpleTimer start inside index =>
    simp only [checkedSkip?, skipUntil?, SimpleTimer.checkedSkip_eq start index reading]

/-- Passing over firings always has an answer, and leaves a trigger of the same kind. -/
theorem Usable.skip (usable : t.Usable) (threshold : Instant) :
    ∃ after, t.skipUntil? threshold = some after ∧ after.Usable := by
  cases usable with
  | pointInTime next? => exact ⟨_, rfl, .pointInTime _⟩
  | interval start divides =>
    obtain ⟨after, skipped, same, period⟩ := Interval.skip_answers divides threshold
    refine ⟨.interval after, by simp only [skipUntil?, skipped, Option.map_some], ?_⟩
    exact .interval (same ▸ start) (period ▸ divides)
  | simpleTimer start inside index =>
    obtain ⟨after, skipped⟩ :=
      SimpleTimer.skip_answers (SimpleTimer.startShows_of_wellInside inside) threshold
    obtain ⟨same, kept⟩ := SimpleTimer.skip_keeps index skipped
    refine ⟨.simpleTimer after, by simp only [skipUntil?, skipped, Option.map_some], ?_⟩
    exact .simpleTimer (same ▸ start) (same ▸ inside) kept

/-- Taking a firing leaves a trigger of the same kind. -/
theorem Usable.advance (usable : t.Usable) (advances : t.advance? = some (taken?, after)) :
    after.Usable := by
  cases usable with
  | pointInTime next? =>
    cases advances
    exact .pointInTime _
  | @interval t start divides =>
    cases advances
    obtain ⟨same, period⟩ := t.advance_keeps
    exact .interval (same ▸ start) (period ▸ divides)
  | simpleTimer start inside index =>
    obtain ⟨left, moved, rfl⟩ := advance_timer advances
    obtain ⟨same, kept⟩ := SimpleTimer.advance_keeps index moved
    exact .simpleTimer (same ▸ start) (same ▸ inside) kept

end Trigger

end Punctual
