import Punctual.Proofs.IntervalSkips

/-!
Progress of intervals. A later index has a later occurrence, also if the start lies within a leap second.
So each firing that is taken comes before the one that is pending then.

The index stops at the largest of 32 bits. Without a limit, taking the firing with that index leaves the
interval as it is, and it waits for the same firing for ever.
-/
namespace Punctual

namespace Interval

variable {t : Interval} {a b : Instant} {j k : Int}

/-! ## The order of occurrences -/

theorem Placed.occurrence_lt (placed : t.Placed) (forward : 0 ≤ j) (further : j < k)
    (occurs : t.occurrence? j = some a) (occurs' : t.occurrence? k = some b) : a < b := by
  obtain ⟨_, _, moved⟩ := occurrence_eq_some.mp occurs
  obtain ⟨_, _, moved'⟩ := occurrence_eq_some.mp occurs'
  rw [(Instant.shift?_eq_some moved).1, (Instant.shift?_eq_some moved').1]
  have longer : t.offset j < t.offset k :=
    Int.mul_lt_mul_of_pos_right (Int.mul_lt_mul_of_pos_left further placed.period) (by decide)
  exact Instant.shift_lt_shift (placed.offset_nonneg forward) longer

/-- What is pending under a later index than the current one is later than the firing that comes next. -/
theorem Placed.next_lt (placed : t.Placed) (within : t.start.inRange = true) (next : t.next? = some a)
    (further : t.count < k) (pending : t.pending? k = some b) : a < b :=
  placed.occurrence_lt placed.bounded.1 further (pending_some (placed.pending_count within next)).2.1
    (pending_some pending).2.1

/-! ## Taking a firing -/

/-- Below the largest index, taking a firing leaves a later one. -/
theorem Placed.take_lt (placed : t.Placed) (within : t.start.inRange = true) (next : t.next? = some a)
    (below : t.count < maxInt32) (next' : t.advance.2.next? = some b) : a < b := by
  have further : t.count < nextInt32 t.count := by
    simp only [nextInt32]
    omega
  rw [placed.advance_eq next] at next'
  exact placed.next_lt within next further next'

/-- With the largest index, taking a firing changes nothing; only without a limit is there one to take. -/
theorem Placed.take_last (placed : t.Placed) (within : t.start.inRange = true)
    (small : t.limit ≤ maxInt32) (next : t.next? = some a) (last : t.count = maxInt32) :
    t.limit ≤ 0 ∧ t.advance = (some a, t) := by
  have still : nextInt32 t.count = t.count := by
    simp only [nextInt32]
    omega
  have same : { t with count := t.count, next? := some a } = t := by
    rw [← next]
  have advanced := placed.advance_eq next
  rw [still, placed.pending_count within next, same] at advanced
  refine ⟨?_, advanced⟩
  by_contra limited
  have allowed := placed.allowed a next (by omega)
  omega

end Interval

/-- However far an interval has come, below the largest index each firing that is taken comes before the one
that is pending then. Only an interval without a limit fires with the largest index and has a firing
pending then; that is the same one, and taking it changes nothing. -/
theorem Interval.firings_make_progress {start a b : Instant} {stop? : Option Instant}
    {limit periodMs : Int} {made : Trigger} {t after : Interval} {calls : List Trigger.Call}
    {taken : List Instant} (created : Trigger.newInterval start stop? limit periodMs = .ok made)
    (valid : start.Valid) (small : limit ≤ maxInt32)
    (ran : made.run calls = some (taken, .interval t)) (fired : t.advance = (some a, after))
    (next' : after.next? = some b) :
    (t.count < maxInt32 → a < b) ∧ (maxInt32 ≤ t.count → limit ≤ 0 ∧ a = b ∧ after = t) := by
  have begun : made.Made := .interval created valid.nano
  have placed := begun.placed.1.run_placed ran
  have plan := Trigger.run_plan ran
  obtain ⟨rfl, rfl⟩ : t.start = start ∧ t.limit = limit := by
    rw [Trigger.newInterval_eq created] at plan
    cases plan
    exact ⟨rfl, rfl⟩
  cases placed with
  | interval placed =>
    have next : t.next? = some a := by
      cases next : t.next? with
      | none =>
        rw [advance_none next] at fired
        cases fired
      | some current =>
        rw [placed.advance_eq next] at fired
        exact congrArg Prod.fst fired
    have left : t.advance.2 = after := congrArg Prod.snd fired
    refine ⟨fun below => placed.take_lt valid.inRange next below (left ▸ next'), fun last => ?_⟩
    have counted := placed.bounded.2
    obtain ⟨limitless, same⟩ := placed.take_last valid.inRange small next (by omega)
    rw [same] at fired
    cases fired
    rw [next] at next'
    cases next'
    exact ⟨limitless, rfl, rfl⟩

/-- The second of six firings within the hour comes before the third. -/
theorem Interval.firings_make_progress_within_the_hour :
    (⟨600, 0⟩ : Instant) < ⟨1200, 0⟩ := by
  have created : Trigger.newInterval ⟨0, 0⟩ none 6 600000 =
      .ok (.interval ⟨⟨0, 0⟩, none, 6, 0, 600000, some ⟨0, 0⟩⟩) := rfl
  have ran : Trigger.run (.interval ⟨⟨0, 0⟩, none, 6, 0, 600000, some ⟨0, 0⟩⟩) [.take] =
      some ([⟨0, 0⟩], .interval hourly) := by decide
  have fired : hourly.advance =
      (some ⟨600, 0⟩, { hourly with count := 2, next? := some ⟨1200, 0⟩ }) := by decide
  exact (firings_make_progress created ⟨by decide, by decide⟩ (by decide) ran fired rfl).1 (by decide)

/-- Every millisecond, and thirty days of firings missed: the index has come to the largest, and the firing
with it is taken again and again. -/
theorem Interval.last_firing_repeats :
    ∃ made t, Trigger.newInterval ⟨0, 0⟩ none 0 1 = .ok made ∧
      made.run [.skip ⟨2592000, 0⟩] = some ([], .interval t) ∧
      t.advance = (some ⟨2147483, 647000000⟩, t) ∧ t.next? = some ⟨2147483, 647000000⟩ := by
  refine ⟨_, ⟨⟨0, 0⟩, none, 0, 2147483647, 1, some ⟨2147483, 647000000⟩⟩, rfl, ?_, ?_, rfl⟩ <;> decide

end Punctual
