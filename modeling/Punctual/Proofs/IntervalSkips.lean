import Punctual.Proofs.Occurrences
import Punctual.Proofs.Readings

/-!
Skipping of intervals. Passing over the missed firings of an interval divides; taking them goes step by
step. The two agree on all that matters from the threshold on: skipping leaves an interval that goes
through the same occurrences at or after the threshold, under the same indices.

The occurrences of an interval are found by adding, so they keep the order of their indices, and where
one of them is pending all those before it were.
-/
namespace Punctual

/-- A 32-bit index is reached by a number that is not above it. -/
theorem toInt32_getD_le_of_le {n k : Int} (low : minInt32 ≤ n) (reached : n ≤ k) (high : k ≤ maxInt32) :
    (toInt32? n).getD maxInt32 ≤ k := by
  have fits : toInt32? n = some n := if_pos ⟨low, Int.le_trans reached high⟩
  rw [fits]
  exact reached

theorem toInt32_getD_cases (n : Int) :
    (toInt32? n).getD maxInt32 = n ∨ (toInt32? n).getD maxInt32 = maxInt32 := by
  unfold toInt32?
  split
  · exact .inl rfl
  · exact .inr rfl

namespace Interval

variable {t after : Interval} {instant threshold current : Instant} {k : Int}

/-! ## The grid -/

theorem occurrence_eq_some :
    t.occurrence? k = some instant ↔ minInt64 < t.periodMs * k ∧ t.periodMs * k ≤ maxInt64 ∧
      t.start.shift? (t.periodMs * k * nanosPerMilli) = some instant := by
  unfold occurrence? toInt64?
  by_cases fits : minInt64 ≤ t.periodMs * k ∧ t.periodMs * k ≤ maxInt64
  · by_cases least : t.periodMs * k = minInt64
    · have within : minInt64 ≤ maxInt64 := by decide
      simp [least, within]
    · have above : minInt64 < t.periodMs * k := by omega
      simp [fits, least, above]
  · simp only [fits, ↓reduceIte, Option.bind_eq_bind, Option.bind_none, reduceCtorEq, false_iff]
    omega

/-- An index counts as many periods from the start as bring it to the threshold, rounded up. -/
theorem le_mul_ceil {period : Int} (elapsed : Int) (positive : 0 < period) :
    elapsed ≤ period * (elapsed / period + if elapsed % period = 0 then 0 else 1) := by
  have split := Int.mul_ediv_add_emod elapsed period
  have below := Int.emod_lt_of_pos elapsed positive
  rw [Int.mul_add]
  split <;> omega

theorem ceil_le {elapsed period : Int} (positive : 0 < period) (reached : elapsed ≤ period * k) :
    (elapsed / period + if elapsed % period = 0 then 0 else 1) ≤ k := by
  have low := Int.emod_nonneg elapsed (Int.ne_of_gt positive)
  have split := Int.mul_ediv_add_emod elapsed period
  by_cases whole : elapsed % period = 0
  · rw [if_pos whole, Int.add_zero]
    exact Int.le_of_mul_le_mul_left (by omega) positive
  · rw [if_neg whole]
    have further : period * (elapsed / period) < period * k := by omega
    exact Int.lt_of_mul_lt_mul_left further (Int.le_of_lt positive)

/-- The distance of the k-th occurrence from the start, in nanoseconds. -/
def offset (t : Interval) (k : Int) : Int := t.periodMs * k * nanosPerMilli

theorem Placed.offset_nonneg (placed : t.Placed) (forward : 0 ≤ k) : 0 ≤ t.offset k :=
  Int.mul_nonneg (Int.mul_nonneg (Int.le_of_lt placed.period) forward) (by decide)

theorem Placed.offset_le (placed : t.Placed) {j : Int} (before : j ≤ k) : t.offset j ≤ t.offset k :=
  Int.mul_le_mul_of_nonneg_right
    (Int.mul_le_mul_of_nonneg_left before (Int.le_of_lt placed.period)) (by decide)

/-- Where an index has an occurrence, each earlier index has one, no later than that. -/
theorem Placed.occurrence_of_le (placed : t.Placed) (within : t.start.inRange = true) {j : Int}
    (first : 0 ≤ j) (before : j ≤ k) (occurs : t.occurrence? k = some instant) :
    ∃ earlier, t.occurrence? j = some earlier ∧ earlier ≤ instant := by
  obtain ⟨_, high, moved⟩ := occurrence_eq_some.mp occurs
  obtain ⟨rfl, reached⟩ := Instant.shift?_eq_some moved
  have positive := placed.period
  have product : t.periodMs * j ≤ t.periodMs * k :=
    Int.mul_le_mul_of_nonneg_left before (Int.le_of_lt positive)
  have nonneg : 0 ≤ t.periodMs * j := Int.mul_nonneg (Int.le_of_lt positive) first
  have earlier : t.start.shift (t.offset j) ≤ t.start.shift (t.offset k) :=
    Instant.shift_mono (placed.offset_nonneg first) (placed.offset_le before)
  have late : t.start ≤ t.start.shift (t.offset j) :=
    Instant.le_shift_of_valid placed.valid (placed.offset_nonneg first)
  have still : (t.start.shift (t.offset j)).inRange = true :=
    Instant.inRange_between late earlier within reached
  refine ⟨_, occurrence_eq_some.mpr ⟨?_, by omega, if_pos still⟩, earlier⟩
  have least : minInt64 < 0 := by decide
  omega

/-- Where a firing is pending under an index, one was under each earlier index. -/
theorem Placed.pending_of_le (placed : t.Placed) (within : t.start.inRange = true) {j : Int}
    (first : 0 ≤ j) (before : j ≤ k) (pending : t.pending? k = some instant) :
    ∃ earlier, t.pending? j = some earlier := by
  obtain ⟨granted, occurs, inTime⟩ := pending_some pending
  obtain ⟨earlier, occurs', order⟩ := placed.occurrence_of_le within first before occurs
  have granted' : t.isLimitReached j = false := by
    simp only [isLimitReached, Bool.and_eq_false_iff, decide_eq_false_iff_not] at granted ⊢
    omega
  have inTime' : t.isPastStop earlier = false := by
    unfold isPastStop at inTime ⊢
    cases stop : t.stop? with
    | none => rfl
    | some last =>
      simp only [stop, Option.any_some, decide_eq_false_iff_not, not_lt] at inTime ⊢
      exact le_trans order inTime
  exact ⟨earlier, by simp [pending?, granted', occurs', inTime']⟩

/-- The firing that comes next is the one pending under its index. -/
theorem Placed.pending_count (placed : t.Placed) (within : t.start.inRange = true)
    (next : t.next? = some current) : t.pending? t.count = some current := by
  have occurs : t.occurrence? t.count = some current := by
    by_cases zero : t.count = 0
    · rw [placed.first current next zero, zero]
      refine occurrence_eq_some.mpr ⟨by simp [minInt64], by simp [maxInt64], ?_⟩
      rw [Int.mul_zero, Int.zero_mul, Instant.shift?, Instant.shift_zero placed.valid]
      exact if_pos within
    · exact placed.later current next zero
  have granted : t.isLimitReached t.count = false := by
    have allowed := placed.allowed current next
    simp only [isLimitReached, Bool.and_eq_false_iff, decide_eq_false_iff_not]
    omega
  simp [pending?, granted, occurs, placed.inTime current next]

/-! ## Taking firings one by one -/

/-- Taking one firing after another takes this instant, as the k-th occurrence. -/
inductive Delivers : Interval → Int → Instant → Prop
  | now {t : Interval} {instant : Instant} (taken : t.advance.1 = some instant) :
    Delivers t t.count instant
  | later {t : Interval} {k : Int} {instant : Instant} (delivers : Delivers t.advance.2 k instant) :
    Delivers t k instant

theorem Placed.advanced (placed : t.Placed) : t.advance.2.Placed := by
  cases next : t.next? with
  | none =>
    rw [advance_none next]
    exact placed
  | some current =>
    rw [placed.advance_eq next]
    have counted := placed.bounded
    refine placed.moved ?_ ?_
    · simp only [nextInt32, maxInt32]
      omega
    · exact Int.min_le_right ..

/-- Of what is delivered, the index is not before the current one and the instant is pending under
it. -/
theorem Delivers.pending (delivers : t.Delivers k instant) (placed : t.Placed)
    (within : t.start.inRange = true) :
    t.next?.isSome ∧ t.count ≤ k ∧ k ≤ maxInt32 ∧ t.pending? k = some instant := by
  induction delivers with
  | @now t instant taken =>
    cases next : t.next? with
    | none => simp [advance_none next] at taken
    | some current =>
      rw [placed.advance_eq next] at taken
      cases taken
      exact ⟨rfl, Int.le_refl _, placed.bounded.2, placed.pending_count within next⟩
  | @later t k instant delivers ih =>
    cases next : t.next? with
    | none =>
      have ended := advance_none next
      rw [ended] at ih
      obtain ⟨pending, _⟩ := ih placed within
      simp [next] at pending
    | some current =>
      have still := placed.advanced
      rw [placed.advance_eq next] at ih still
      obtain ⟨_, onward, bounded, pending⟩ := ih still within
      have counted := placed.bounded.2
      refine ⟨rfl, ?_, bounded, pending⟩
      simp only [nextInt32] at onward
      omega

/-- Whatever is pending under a later index is delivered. -/
theorem Placed.delivers (placed : t.Placed) (within : t.start.inRange = true) (ahead : t.next?.isSome)
    (onward : t.count ≤ k) (bounded : k ≤ maxInt32) (pending : t.pending? k = some instant) :
    t.Delivers k instant := by
  obtain ⟨current, next⟩ := Option.isSome_iff_exists.mp ahead
  generalize distance : (k - t.count).toNat = n
  induction n generalizing t current with
  | zero =>
    obtain rfl : t.count = k := by omega
    have same := placed.pending_count within next
    rw [pending] at same
    cases same
    exact .now (by rw [placed.advance_eq next])
  | succ n ih =>
    have counted : nextInt32 t.count = t.count + 1 := by
      simp only [nextInt32]
      omega
    have forward := placed.bounded.1
    obtain ⟨following, held⟩ :=
      placed.pending_of_le within (Int.le_add_one forward) (by omega : t.count + 1 ≤ k) pending
    have still := placed.advanced
    have advanced := congrArg Prod.snd (placed.advance_eq next)
    rw [counted] at advanced
    rw [advanced] at still
    refine .later ?_
    rw [advanced]
    exact ih still within (by simp [held]) (by dsimp only; omega) pending following held
      (by dsimp only; omega)

/-! ## Skipping -/

/-- Skipping never goes past an occurrence that is not before the threshold. -/
theorem Placed.indexAt_le (placed : t.Placed) (plain : t.start.isLeap = false)
    (plain' : threshold.isLeap = false) (begun : t.start ≤ threshold) (bounded : k ≤ maxInt32)
    (occurs : t.occurrence? k = some instant) (reached : threshold ≤ instant) :
    t.indexAt threshold ≤ k := by
  obtain ⟨_, _, moved⟩ := occurrence_eq_some.mp occurs
  obtain ⟨rfl, _⟩ := Instant.shift?_eq_some moved
  rw [Instant.le_iff_toNanos plain' (Instant.shift_plain plain _), Instant.toNanos_shift plain]
    at reached
  rw [Instant.le_iff_toNanos plain plain'] at begun
  have passed := Instant.since_plain plain' plain
  have positive := placed.period
  have elapsed : 0 ≤ (threshold.since t.start).tdiv nanosPerMilli ∧
      (threshold.since t.start).tdiv nanosPerMilli ≤ t.periodMs * k := by
    rw [Int.tdiv_eq_ediv_of_nonneg (by omega)]
    simp only [nanosPerMilli] at reached ⊢
    omega
  refine toInt32_getD_le_of_le ?_ (ceil_le positive elapsed.2) bounded
  have quotient := Int.ediv_nonneg elapsed.1 (Int.le_of_lt positive)
  have least : minInt32 < 0 := by decide
  split <;> omega

theorem Placed.skip_missed (placed : t.Placed) (next : t.next? = some current)
    (missed : current < threshold) : t.skipUntil? threshold = some { t with
      count := max (t.indexAt threshold) t.count
      next? := t.pending? (max (t.indexAt threshold) t.count) } := by
  have unreached : ¬ threshold ≤ current := not_le.mpr missed
  have nonzero : t.periodMs ≠ 0 := Int.ne_of_gt placed.period
  simp [skipUntil?, next, unreached, nonzero]

theorem skip_unmissed (unmissed : ∀ current, t.next? = some current → threshold ≤ current) :
    t.skipUntil? threshold = some t := by
  cases next : t.next? with
  | none => simp [skipUntil?, next]
  | some current => simp [skipUntil?, next, unmissed current next]

/-- The firing that comes next is not before the start. -/
theorem Placed.start_le (placed : t.Placed) (next : t.next? = some current) : t.start ≤ current := by
  by_cases zero : t.count = 0
  · exact le_of_eq (placed.first current next zero).symm
  · obtain ⟨_, _, moved⟩ := occurrence_eq_some.mp (placed.later current next zero)
    rw [(Instant.shift?_eq_some moved).1]
    exact Instant.le_shift_of_valid placed.valid (placed.offset_nonneg placed.bounded.1)

/-- Skipping delivers nothing new, and all that is delivered at or after the threshold. -/
theorem Placed.skip_delivers (placed : t.Placed) (plain : t.start.isLeap = false)
    (within : t.start.inRange = true) (plain' : threshold.isLeap = false)
    (skipped : t.skipUntil? threshold = some after) :
    (after.Delivers k instant → t.Delivers k instant) ∧
      (threshold ≤ instant → t.Delivers k instant → after.Delivers k instant) := by
  by_cases unmissed : ∀ current, t.next? = some current → threshold ≤ current
  · rw [skip_unmissed unmissed] at skipped
    cases skipped
    exact ⟨id, fun _ => id⟩
  obtain ⟨current, next, missed⟩ : ∃ current, t.next? = some current ∧ current < threshold := by
    simpa using unmissed
  rw [placed.skip_missed next missed] at skipped
  have ahead : t.next?.isSome := by simp [next]
  have counted := placed.bounded
  have bounded : max (t.indexAt threshold) t.count ≤ maxInt32 :=
    Int.max_le.mpr ⟨toInt32_getD_le _, counted.2⟩
  have onward : t.count ≤ max (t.indexAt threshold) t.count := Int.le_max_right ..
  have placed' := placed.moved (Int.le_trans counted.1 onward) bounded
  cases skipped
  constructor
  · intro delivers
    obtain ⟨_, later, high, pending⟩ := delivers.pending placed' within
    exact placed.delivers within ahead (Int.le_trans onward later) high pending
  · intro reached delivers
    obtain ⟨_, later, high, pending⟩ := delivers.pending placed within
    have begun := le_trans (placed.start_le next) (le_of_lt missed)
    have index := placed.indexAt_le plain plain' begun high (pending_some pending).2.1 reached
    have further : max (t.indexAt threshold) t.count ≤ k := Int.max_le.mpr ⟨index, later⟩
    obtain ⟨following, held⟩ := placed.pending_of_le within
      (Int.le_trans counted.1 onward) further pending
    exact placed'.delivers within (by simp [held]) further high pending

theorem Placed.exists_skip (placed : t.Placed) (threshold : Instant) :
    ∃ after, t.skipUntil? threshold = some after := by
  rcases placed.skip_cases threshold with same | ⟨_, k, _, _, same⟩
  · exact ⟨t, same⟩
  · exact ⟨_, same⟩

theorem Placed.skipped (placed : t.Placed)
    (skipped : t.skipUntil? threshold = some after) : after.Placed ∧ after.start = t.start := by
  rcases placed.skip_cases threshold with same | ⟨_, k, onward, bounded, same⟩
  · rw [same] at skipped
    cases skipped
    exact ⟨placed, rfl⟩
  · rw [same] at skipped
    cases skipped
    exact ⟨placed.moved (Int.le_trans placed.bounded.1 onward) bounded, rfl⟩

theorem Placed.skip_onward (placed : t.Placed) (skipped : t.skipUntil? threshold = some after) :
    t.count ≤ after.count := by
  rcases placed.skip_cases threshold with same | ⟨_, k, onward, _, same⟩
  · rw [same] at skipped
    cases skipped
    exact Int.le_refl _
  · rw [same] at skipped
    cases skipped
    exact onward

end Interval

theorem Trigger.newInterval_eq {start : Instant} {stop? : Option Instant} {limit periodMs : Int}
    {t : Trigger} (created : newInterval start stop? limit periodMs = .ok t) :
    t = .interval ⟨start, stop?, limit, 0, periodMs, some start⟩ := by
  simp only [newInterval, bind, Except.bind, pure, Except.pure] at created
  split at created
  · cases created
  split at created <;> cases created
  rfl

/-- An interval from a start that is no leap second, however far it has come, loses nothing by skipping:
the firings delivered at or after the threshold are the same as if all were taken, each the occurrence
with the same index. Skipping never goes back, and does nothing if no firing was missed. -/
theorem Interval.skipping_loses_no_firing {start threshold : Instant} {stop? : Option Instant}
    {limit periodMs : Int} {t : Interval} {made : Trigger} {calls : List Trigger.Call}
    {taken : List Instant} (created : Trigger.newInterval start stop? limit periodMs = .ok made)
    (valid : start.Valid) (plain : start.isLeap = false)
    (ran : made.run calls = some (taken, .interval t)) (plain' : threshold.isLeap = false) :
    ∃ after, t.skipUntil? threshold = some after ∧
      (∀ k instant, threshold ≤ instant → (t.Delivers k instant ↔ after.Delivers k instant)) ∧
      (∀ k instant, t.Delivers k instant ∨ after.Delivers k instant →
        0 ≤ k ∧ k ≤ maxInt32 ∧ instant = start.shift (periodMs * k * nanosPerMilli)) ∧
      t.count ≤ after.count ∧
      (∀ current, t.next? = some current → threshold ≤ current → after = t) := by
  have begun : made.Made := .interval created valid.nano
  have placed := begun.placed.1.run_placed ran
  have plan := Trigger.run_plan ran
  obtain ⟨rfl, rfl⟩ : t.start = start ∧ t.periodMs = periodMs := by
    rw [Trigger.newInterval_eq created] at plan
    cases plan
    exact ⟨rfl, rfl⟩
  cases placed with
  | interval placed =>
    have positive : t.periodMs ≠ 0 := Int.ne_of_gt placed.period
    obtain ⟨after, skipped⟩ := placed.exists_skip threshold
    have same : ∀ k instant, (after.Delivers k instant → t.Delivers k instant) ∧
        (threshold ≤ instant → t.Delivers k instant → after.Delivers k instant) :=
      fun k instant => placed.skip_delivers plain valid.inRange plain' skipped
    refine ⟨after, skipped, ?_, ?_, placed.skip_onward skipped, ?_⟩
    · exact fun k instant reached => ⟨(same k instant).2 reached, (same k instant).1⟩
    · intro k instant delivers
      have delivers : t.Delivers k instant := delivers.elim id (same k instant).1
      obtain ⟨_, onward, bounded, pending⟩ := delivers.pending placed valid.inRange
      obtain ⟨_, _, moved⟩ := occurrence_eq_some.mp (pending_some pending).2.1
      exact ⟨Int.le_trans placed.bounded.1 onward, bounded, (Instant.shift?_eq_some moved).1⟩
    · intro current next reached
      have unmissed : ∀ instant, t.next? = some instant → threshold ≤ instant := by
        intro instant next'
        rw [next] at next'
        cases next'
        exact reached
      rw [skip_unmissed unmissed] at skipped
      cases skipped
      rfl

/-- Every ten minutes, six times in all. -/
def Interval.hourly : Interval := ⟨⟨0, 0⟩, none, 6, 1, 600000, some ⟨600, 0⟩⟩

/-- One firing was taken; the threshold lies between the third and the fourth of the occurrences. -/
theorem Interval.skipping_loses_no_firing_within_the_hour :
    ∃ after, hourly.skipUntil? ⟨1500, 500⟩ = some after ∧
      (∀ k instant, (⟨1500, 500⟩ : Instant) ≤ instant →
        (hourly.Delivers k instant ↔ after.Delivers k instant)) ∧ 1 ≤ after.count := by
  have created : Trigger.newInterval ⟨0, 0⟩ none 6 600000 =
      .ok (.interval ⟨⟨0, 0⟩, none, 6, 0, 600000, some ⟨0, 0⟩⟩) := rfl
  have ran : Trigger.run (.interval ⟨⟨0, 0⟩, none, 6, 0, 600000, some ⟨0, 0⟩⟩) [.take] =
      some ([⟨0, 0⟩], .interval hourly) := by decide
  have plain : (⟨1500, 500⟩ : Instant).isLeap = false := by decide
  obtain ⟨after, skipped, same, _, onward, _⟩ :=
    skipping_loses_no_firing created ⟨by decide, by decide⟩ (by decide) ran plain
  exact ⟨after, skipped, same, onward⟩

-- the occurrences after ten and after twenty minutes are passed over
example : (Interval.hourly.skipUntil? ⟨1500, 500⟩).map (fun t => (t.count, t.next?)) =
    some (3, some ⟨1800, 0⟩) := by decide

end Punctual
