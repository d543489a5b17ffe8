import Punctual.Proofs.IntervalSkips

/-!
What skipping leaves of the firings before the threshold. Nothing, if the trigger fires once or is a
simple timer, whose search ends at an occurrence that is not before the threshold or at none, unless it
breaks off.

An interval divides whole milliseconds, so that a threshold less than a millisecond after an occurrence
is taken to lie on it, and an index that 32 bits do not hold is cut to the largest one, whose occurrence
may come any time before the threshold. Leap seconds, at the start or at the threshold, are counted by
times of day, which can miss one for each.
-/
namespace Punctual

/-! ## Intervals -/

namespace Interval

variable {t after : Interval} {instant threshold : Instant}

/-- The index at a threshold covers the whole milliseconds until then, or is the largest. -/
theorem indexAt_covers (positive : 0 < t.periodMs) (threshold : Instant) :
    t.indexAt threshold = maxInt32 ∨
      (threshold.since t.start).tdiv nanosPerMilli ≤ t.periodMs * t.indexAt threshold := by
  unfold indexAt
  dsimp only
  generalize (threshold.since t.start).tdiv nanosPerMilli = elapsed
  have covered := le_mul_ceil elapsed positive
  generalize (elapsed / t.periodMs + if elapsed % t.periodMs = 0 then 0 else 1) = index at covered ⊢
  rcases toInt32_getD_cases index with same | cut
  · rw [same]
    exact .inr covered
  · exact .inl cut

/-- What is pending after a skip is not before the threshold, by the count of whole milliseconds. -/
theorem Placed.skip_reaches (placed : t.Placed) (skipped : t.skipUntil? threshold = some after)
    (next : after.next? = some instant) :
    threshold ≤ instant ∨ after.count = maxInt32 ∨
      threshold.toNanos < instant.toNanos + (nanosPerMilli + t.start.leapNanos + threshold.leapNanos) := by
  by_cases unmissed : ∀ current, t.next? = some current → threshold ≤ current
  · rw [skip_unmissed unmissed] at skipped
    cases skipped
    exact .inl (unmissed instant next)
  obtain ⟨current, pending, missed⟩ : ∃ current, t.next? = some current ∧ current < threshold := by
    simpa using unmissed
  rw [placed.skip_missed pending missed] at skipped
  cases skipped
  have counted := placed.bounded
  rcases indexAt_covers placed.period threshold with cut | covered
  · have last : max (t.indexAt threshold) t.count = maxInt32 := by omega
    exact .inr (.inl last)
  -- the firing is as many periods from the start as the milliseconds until the threshold, or more
  have index : t.indexAt threshold ≤ max (t.indexAt threshold) t.count := Int.le_max_left ..
  obtain ⟨_, _, moved⟩ := occurrence_eq_some.mp (pending_some next).2.1
  obtain ⟨rfl, _⟩ := Instant.shift?_eq_some moved
  have further : (threshold.since t.start).tdiv nanosPerMilli ≤
      t.periodMs * max (t.indexAt threshold) t.count :=
    Int.le_trans covered (Int.mul_le_mul_of_nonneg_left index (Int.le_of_lt placed.period))
  have reached := Instant.le_toNanos_shift t.start (t.offset (max (t.indexAt threshold) t.count))
  have passed := Instant.le_since threshold t.start
  have cut := Int.mul_tdiv_add_tmod (threshold.since t.start) nanosPerMilli
  have rest := Int.tmod_lt_of_pos (threshold.since t.start) (by decide : (0 : Int) < nanosPerMilli)
  refine .inr (.inr ?_)
  simp only [offset, nanosPerMilli] at reached further cut rest ⊢
  omega

end Interval

/-! ## Simple timers -/

/-- The search of a simple timer never ends before the threshold. -/
theorem SimpleTimer.skip_reaches {t after : SimpleTimer} {instant threshold : Instant}
    (skipped : t.skipUntil? threshold = some after) (next : after.next? = some instant) :
    threshold ≤ instant := by
  by_cases unmissed : ∀ current, t.next? = some current → threshold ≤ current
  · rw [skip_unmissed unmissed] at skipped
    cases skipped
    exact unmissed instant next
  · obtain ⟨current, pending, missed⟩ : ∃ current, t.next? = some current ∧ current < threshold := by
      simpa using unmissed
    rw [skip_missed pending missed] at skipped
    obtain ⟨result, searched, rfl⟩ := Option.map_eq_some_iff.mp skipped
    exact ((search_found searched).2.2 instant (Option.filter_eq_some_iff.mp next).1).2.2

/-! ## Triggers -/

namespace Trigger

/-- A trigger of any kind, as it is made. -/
inductive Fresh : Trigger → Prop
  | pointInTime (instant : Instant) : Fresh (.pointInTime (some instant))
  | repeating {t : Trigger} (made : t.Made) : Fresh t

/-- A trigger that fires once has its place whatever is asked of it; one that repeats has the next
firing placed. -/
inductive Settled : Trigger → Prop
  | pointInTime (next? : Option Instant) : Settled (.pointInTime next?)
  | repeating {t : Trigger} (placed : t.Placed) : Settled t

variable {t before : Trigger} {calls : List Call} {taken : List Instant}

/-- What fires once has that firing left or none. -/
theorem run_pointInTime (next? : Option Instant) (calls : List Call) :
    ∃ taken left?, run (.pointInTime next?) calls = some (taken, .pointInTime left?) ∧
      ∀ instant, left? = some instant → next? = some instant := by
  induction calls generalizing next? with
  | nil => exact ⟨[], next?, rfl, fun _ left => left⟩
  | cons call calls ih =>
    cases call with
    | take =>
      obtain ⟨taken, left?, ran, same⟩ := ih none
      refine ⟨next?.toList ++ taken, left?, by simp [run, advance?, ran], fun instant left => ?_⟩
      cases same instant left
    | skip threshold =>
      obtain ⟨taken, left?, ran, same⟩ := ih (next?.filter (threshold ≤ ·))
      refine ⟨taken, left?, by simp [run, skipUntil?, ran], fun instant left => ?_⟩
      exact (Option.filter_eq_some_iff.mp (same instant left)).1

theorem Fresh.settled (fresh : t.Fresh) (ran : t.run calls = some (taken, before)) :
    before.Settled := by
  cases fresh with
  | pointInTime instant =>
    obtain ⟨_, left?, ran', _⟩ := run_pointInTime (some instant) calls
    rw [ran] at ran'
    cases ran'
    exact .pointInTime left?
  | repeating made =>
    exact .repeating (made.placed.1.run_placed ran)

/-- However far a trigger has come, skipping it to a threshold has an answer if its start shows as a local
time, wherever days are counted, in a zone of `Zone.Table`; and what is pending then is not before the
threshold. Only an interval may have its last possible index pending, or an occurrence less than a
millisecond before the threshold, a second more for each leap second at the start and at the threshold. -/
theorem skipping_passes_missed_firings (fresh : t.Fresh) (ran : t.run calls = some (taken, before))
    (threshold : Instant) :
    (before.startShows = true → ∃ after, before.skipUntil? threshold = some after) ∧
    ∀ after, before.skipUntil? threshold = some after →
      ∀ instant, after.next? = some instant → threshold ≤ instant ∨
        ∃ i, after = .interval i ∧ (i.count = maxInt32 ∨ threshold.toNanos <
          instant.toNanos + (nanosPerMilli + i.start.leapNanos + threshold.leapNanos)) := by
  cases fresh.settled ran with
  | pointInTime next? =>
    refine ⟨fun _ => ⟨_, rfl⟩, ?_⟩
    rintro _ ⟨⟩ instant next
    have kept := (Option.filter_eq_some_iff.mp next).2
    exact .inl (by simpa using kept)
  | repeating placed =>
    refine ⟨fun shows => placed.skip_answers shows threshold, ?_⟩
    intro after skipped instant next
    cases placed with
    | interval placed =>
      obtain ⟨left, passed, rfl⟩ := skip_interval skipped
      rcases placed.skip_reaches passed next with reached | short
      · exact .inl reached
      · exact .inr ⟨left, rfl, (placed.skipped passed).2 ▸ short⟩
    | simpleTimer placed =>
      obtain ⟨left, passed, rfl⟩ := skip_timer skipped
      exact .inl (SimpleTimer.skip_reaches passed next)

/-- Every second from the epoch on. -/
def everySecond : Trigger := .interval ⟨⟨0, 0⟩, none, 0, 0, 1000, some ⟨0, 0⟩⟩

/-- A microsecond after an occurrence, that one is pending still. -/
theorem skipping_passes_missed_firings_but_one :
    everySecond.skipUntil? ⟨3, 1000⟩ = some (.interval ⟨⟨0, 0⟩, none, 0, 3, 1000, some ⟨3, 0⟩⟩) ∧
      Instant.toNanos ⟨3, 1000⟩ < Instant.toNanos ⟨3, 0⟩ + nanosPerMilli := by
  have made : newInterval ⟨0, 0⟩ none 0 1000 = .ok everySecond := rfl
  have fresh : everySecond.Fresh := .repeating (.interval made (by decide))
  have skipped : everySecond.skipUntil? ⟨3, 1000⟩ =
      some (.interval ⟨⟨0, 0⟩, none, 0, 3, 1000, some ⟨3, 0⟩⟩) := by decide
  obtain ⟨_, near⟩ := skipping_passes_missed_firings fresh (rfl : everySecond.run [] = _) ⟨3, 1000⟩
  refine ⟨skipped, ?_⟩
  rcases near _ skipped ⟨3, 0⟩ rfl with reached | ⟨i, ⟨⟩, cut | short⟩
  · exact absurd reached (by decide)
  · exact absurd cut (by decide)
  · simpa [Instant.leapNanos, Instant.isLeap, nanosPerSecond] using short

/-- Firings before the threshold are left pending: one less than a millisecond before it, the one with
the largest index days before it, and one where a leap second is not counted. -/
theorem skipping_stops_short :
    (∃ t after, newInterval ⟨0, 0⟩ none 0 1000 = .ok t ∧ t.skipUntil? ⟨1, 500⟩ = some after ∧
      after.next? = some ⟨1, 0⟩ ∧ (⟨1, 0⟩ : Instant) < ⟨1, 500⟩) ∧
    (∃ t after, newInterval ⟨0, 0⟩ none 0 1 = .ok t ∧ t.skipUntil? ⟨2592000, 0⟩ = some after ∧
      after.next? = some ⟨2147483, 647000000⟩ ∧ (⟨2147483, 647000000⟩ : Instant) < ⟨2592000, 0⟩) ∧
    (∃ t after, newInterval ⟨59, 1500000000⟩ none 0 86400000 = .ok t ∧
      t.skipUntil? ⟨86459, 700000000⟩ = some after ∧ after.next? = some ⟨86459, 500000000⟩ ∧
      (⟨86459, 500000000⟩ : Instant) < ⟨86459, 700000000⟩) := by
  refine ⟨⟨_, _, rfl, rfl, ?_, ?_⟩, ⟨_, _, rfl, rfl, ?_, ?_⟩, ⟨_, _, rfl, rfl, ?_, ?_⟩⟩ <;> decide

end Trigger

end Punctual
