import Mathlib.Tactic.Ring
import Punctual.Proofs.MissedFirings
import Punctual.Proofs.Overflow

/-!
Skipping of simple timers. The search for the first occurrence at or after a threshold starts at a guess,
one nominal period early. Nothing is missed below the guess, because local time is less than a day from
UTC: an occurrence counted in days is less than two days from its nominal place, hence less than two
periods. So skipping ends where taking one firing after another would end.

The guess counts time by differences, in which a leap second at the threshold is as long as any other,
while in the order of instants all of it comes before the next second. A timer with a period below half
a second can have occurrences in between, which the search then passes over.
-/
namespace Punctual

/-- What a quotient reaches, its divisor reaches as often. -/
theorem mul_le_of_le_tdiv {a b m : Int} (divisor : 0 < b) (positive : 0 < m) (reached : m ≤ a.tdiv b) :
    m * b ≤ a := by
  have nonneg : 0 ≤ a := by
    by_contra negative
    have quotient := Int.tdiv_nonneg_of_nonpos_of_nonpos (a := a) (b := -b) (by omega) (by omega)
    rw [Int.tdiv_neg] at quotient
    omega
  rw [Int.tdiv_eq_ediv_of_nonneg nonneg] at reached
  exact (Int.le_ediv_iff_mul_le divisor).mp reached

/-! ## Occurrences near their nominal places -/

/-- A local time is shown less than a day from the instant at which UTC shows it. -/
theorem Zone.instantOf_near {z : Zone} {l : LocalTime} {t : Instant} (shown : z.instantOf? l = some t) :
    l.reading.toNanos < t.toNanos + 86401 * nanosPerSecond ∧
      t.toNanos ≤ l.reading.toNanos + 86399 * nanosPerSecond := by
  unfold instantOf? at shown
  split at shown
  · rename_i offset first
    have bounded := offsetsShowing_bounded first
    dsimp only at shown
    split at shown <;> cases shown
    simp only [Instant.toNanos, nanosPerSecond]
    omega
  · simp only [↓do_eq_some_iff] at shown
    obtain ⟨dayBefore, _, offset, first, moved⟩ := shown
    have bounded := offsetsShowing_bounded first
    obtain ⟨rfl, _⟩ := Instant.shift?_eq_some moved
    have upper := l.reading.toNanos_shift_le (-offset * nanosPerSecond)
    have lower := l.reading.le_toNanos_shift (-offset * nanosPerSecond)
    have leap := l.reading.leapNanos_le
    simp only [nanosPerSecond] at upper lower leap ⊢
    omega

theorem Zone.instantOf_valid {z : Zone} {l : LocalTime} {t : Instant}
    (valid : l.reading.nano < 2 * nanosPerSecond) (shown : z.instantOf? l = some t) : t.Valid := by
  unfold instantOf? at shown
  split at shown
  · dsimp only at shown
    split at shown <;> cases shown
    rename_i within
    exact ⟨within, valid⟩
  · simp only [↓do_eq_some_iff] at shown
    obtain ⟨_, _, _, _, moved⟩ := shown
    exact Instant.shift_valid moved

namespace SimpleTimer

variable {t after : SimpleTimer} {instant threshold current : Instant} {k : Int} {zone : Zone}

/-- An instant some days after the start is the one of the local time so many days later. -/
theorem daysAfterStart_some (occurs : t.daysAfterStart? zone k = some (some instant)) :
    (zone.toLocal t.start).reading.inRange = true ∧ 0 ≤ k ∧
      ∃ later, Zone.daysLater? (zone.toLocal t.start) k.toNat = some later ∧
        zone.instantOf? later = some instant := by
  unfold daysAfterStart? at occurs
  dsimp only at occurs
  split at occurs
  · cases occurs
  rename_i shows
  split at occurs
  · cases occurs
  rename_i forward
  obtain ⟨later, moved, shown⟩ := Option.bind_eq_some_iff.mp (Option.some_inj.mp occurs)
  exact ⟨by simpa using shows, Int.not_lt.mp forward, later, moved, shown⟩

/-- An instant some days after the start is less than two days from where days of 24 hours put it. -/
theorem daysAfterStart_near (occurs : t.daysAfterStart? zone k = some (some instant)) :
    0 ≤ k ∧ t.start.toNanos + (k * 86400 - 172800) * nanosPerSecond ≤ instant.toNanos ∧
      instant.toNanos ≤ t.start.toNanos + (k * 86400 + 172798) * nanosPerSecond := by
  obtain ⟨_, forward, later, moved, shown⟩ := daysAfterStart_some occurs
  have near := Zone.instantOf_near shown
  have bounded := zone.offsetAt_bounded t.start.second
  unfold Zone.daysLater? at moved
  dsimp only at moved
  split at moved <;> cases moved
  simp only [Zone.toLocal, Instant.toNanos, nanosPerSecond] at near ⊢
  omega

/-- An occurrence counted in units of fixed length is as many of them after the start. -/
theorem occurrence_fixed (fixed : t.unit ≠ .days) (occurs : t.occurrence? k = some (some instant)) :
    t.start.shift? (t.period * k * t.unit.length * nanosPerMilli) = some instant := by
  unfold occurrence? at occurs
  split at occurs
  · cases occurs
  rename_i steps whole
  split at occurs
  · exact absurd (by assumption) fixed
  have moved := Option.some_inj.mp occurs
  unfold unitsAfterStart? at moved
  obtain ⟨ms, scaled, moved⟩ := Option.bind_eq_some_iff.mp moved
  split at moved
  · cases moved
  rw [eq_of_toInt64 scaled, eq_of_toInt64 whole] at moved
  exact moved

theorem occurrence_days (days : t.unit = .days) (occurs : t.occurrence? k = some (some instant)) :
    ∃ zone, t.zone? = some zone ∧ t.daysAfterStart? zone (t.period * k) = some (some instant) := by
  unfold occurrence? at occurs
  split at occurs
  · cases occurs
  rename_i steps whole
  rw [days] at occurs
  dsimp only at occurs
  split at occurs
  · cases occurs
  rename_i zone known
  exact ⟨zone, known, eq_of_toInt64 whole ▸ occurs⟩

/-! ## The guess -/

theorem length_days (days : t.unit = .days) : (t.unit.length : Int) = 86400000 := by
  rw [days]
  rfl

theorem one_le_period (positive : 0 < t.period) : 1 ≤ t.period * t.unit.length := by
  have length : 1 ≤ (t.unit.length : Int) := by cases t.unit <;> decide
  have scaled := Int.mul_le_mul_of_nonneg_left length (Int.le_of_lt positive)
  omega

/-- The nominal period is the period in milliseconds, or the most that 64 bits hold. -/
theorem nominalMs_cases (positive : 0 < t.period) :
    t.nominalMs = t.period * t.unit.length ∨ t.nominalMs = maxInt64 := by
  have least := one_le_period positive
  unfold nominalMs TimeUnit.toMillis? toInt64?
  split
  · exact .inl (Int.max_eq_left least)
  · exact .inr rfl

theorem nominalMs_pos (t : SimpleTimer) : 0 < t.nominalMs := by
  have least : 1 ≤ t.nominalMs := Int.le_max_right ..
  omega

theorem occurrence_valid (valid : t.start.nano < 2 * nanosPerSecond)
    (occurs : t.occurrence? k = some (some instant)) : instant.Valid := by
  by_cases days : t.unit = .days
  · obtain ⟨zone, _, found⟩ := occurrence_days days occurs
    obtain ⟨_, _, later, moved, shown⟩ := daysAfterStart_some found
    unfold Zone.daysLater? at moved
    dsimp only at moved
    split at moved <;> cases moved
    exact Zone.instantOf_valid valid shown
  · exact Instant.shift_valid (occurrence_fixed days occurs)

/-- The firing that comes next is at most two days before the start, and that only for days. -/
theorem Placed.start_near (placed : t.Placed) (next : t.next? = some current) :
    t.start.toNanos ≤ current.toNanos + 172800 * nanosPerSecond := by
  have forward := Int.mul_nonneg (Int.le_of_lt placed.period) placed.bounded.1
  by_cases zero : t.index = 0
  · rw [placed.first current next zero]
    simp only [nanosPerSecond]
    omega
  have occurs := placed.later current next zero
  by_cases days : t.unit = .days
  · obtain ⟨zone, _, shown⟩ := occurrence_days days occurs
    have near := daysAfterStart_near shown
    simp only [nanosPerSecond] at near ⊢
    omega
  · obtain ⟨rfl, _⟩ := Instant.shift?_eq_some (occurrence_fixed days occurs)
    have offset : 0 ≤ t.period * t.index * t.unit.length * nanosPerMilli :=
      Int.mul_nonneg (Int.mul_nonneg forward (Int.natCast_nonneg _)) (by decide)
    have moved := t.start.le_toNanos_shift (t.period * t.index * t.unit.length * nanosPerMilli)
    have leap := t.start.leapNanos_le
    simp only [nanosPerSecond] at leap ⊢
    omega

theorem Placed.next_valid (placed : t.Placed) (next : t.next? = some current) :
    current.nano < 2 * nanosPerSecond := by
  by_cases zero : t.index = 0
  · rw [placed.first current next zero]
    exact placed.valid
  · exact (occurrence_valid placed.valid (placed.later current next zero)).nano

/-- The threshold may be before the start, but not by as many periods as 32 bits hold. -/
theorem Placed.guess_low (placed : t.Placed) (next : t.next? = some current)
    (missed : current < threshold) :
    minInt32 ≤ ((threshold.since t.start).tdiv nanosPerMilli).tdiv t.nominalMs - 1 := by
  have positive := t.nominalMs_pos
  have milli : (0 : Int) < nanosPerMilli := by decide
  have near := placed.start_near next
  have order := Instant.toNanos_lt_add (placed.next_valid next) missed
  have since := Instant.le_since threshold t.start
  have leap := threshold.leapNanos_le
  have cut := Int.mul_tdiv_add_tmod (threshold.since t.start) nanosPerMilli
  have rest := Int.tmod_lt_of_pos (threshold.since t.start) milli
  generalize (threshold.since t.start).tdiv nanosPerMilli = passed at cut ⊢
  have bound : -172803000 ≤ passed := by
    simp only [nanosPerSecond, nanosPerMilli] at *
    omega
  by_cases negative : passed < 0
  · have magnitude : passed.natAbs ≤ 172803000 := by omega
    have quotient : (passed.tdiv t.nominalMs).natAbs ≤ 172803000 := by
      rw [Int.natAbs_tdiv]
      exact Nat.le_trans (Nat.div_le_self ..) magnitude
    unfold minInt32
    omega
  · have quotient := Int.tdiv_nonneg (Int.not_lt.mp negative) (Int.le_of_lt positive)
    unfold minInt32
    omega

/-- Two nominal periods past any index that the guess leaves out, the threshold is still to come. -/
theorem Placed.guess_early (placed : t.Placed) (next : t.next? = some current)
    (missed : current < threshold) (onward : t.index ≤ k) (below : k < t.searchStart threshold) :
    (k + 2) * t.nominalMs ≤ (threshold.since t.start).tdiv nanosPerMilli ∧
      (threshold.since t.start).tdiv nanosPerMilli * nanosPerMilli ≤ threshold.since t.start := by
  have forward := placed.bounded.1
  have positive := t.nominalMs_pos
  have milli : (0 : Int) < nanosPerMilli := by decide
  have low := placed.guess_low next missed
  unfold searchStart at below
  dsimp only at below
  generalize elapsed : (threshold.since t.start).tdiv nanosPerMilli = passed at low below ⊢
  have guessed : k < passed.tdiv t.nominalMs - 1 := by
    by_cases high : passed.tdiv t.nominalMs - 1 ≤ maxInt32
    · have fits : toInt32? (passed.tdiv t.nominalMs - 1) = some (passed.tdiv t.nominalMs - 1) :=
        if_pos ⟨low, high⟩
      rw [fits, Option.getD_some] at below
      omega
    · have cut := toInt32_getD_le (passed.tdiv t.nominalMs - 1)
      omega
  have reached := mul_le_of_le_tdiv positive (by omega : 0 < k + 2) (by omega : k + 2 ≤ passed.tdiv t.nominalMs)
  have further : 0 < passed := by
    have product := Int.mul_pos (by omega : 0 < k + 2) positive
    omega
  refine ⟨reached, ?_⟩
  rw [← elapsed] at further ⊢
  exact mul_le_of_le_tdiv milli further (Int.le_refl _)

/-- No occurrence that the guess leaves out is at or after the threshold. -/
theorem Placed.lt_of_left_out (placed : t.Placed) (start : t.start.Valid) (reading : threshold.Valid)
    (clear : threshold.isLeap = false ∨ 500 ≤ t.nominalMs) (next : t.next? = some current)
    (missed : current < threshold) (onward : t.index ≤ k) (below : k < t.searchStart threshold)
    (occurs : t.occurrence? k = some (some instant)) : instant < threshold := by
  obtain ⟨early, exact⟩ := placed.guess_early next missed onward below
  have forward := placed.bounded.1
  have range := Instant.natAbs_since_le reading start
  have period := placed.period
  rcases nominalMs_cases period with nominal | longest
  · have spread : (k + 2) * t.nominalMs =
        t.period * k * t.unit.length + 2 * (t.period * t.unit.length) := by
      rw [nominal]
      ring
    by_cases days : t.unit = .days
    · obtain ⟨zone, _, shown⟩ := occurrence_days days occurs
      have near := (daysAfterStart_near shown).2.2
      have passed := Instant.since_le threshold t.start
      have leap := t.start.leapNanos_le
      have length := length_days days
      refine Instant.lt_of_toNanos_add reading.nano ?_
      rw [length] at spread
      simp only [nanosPerSecond, nanosPerMilli] at near leap early exact ⊢
      omega
    · obtain ⟨rfl, _⟩ := Instant.shift?_eq_some (occurrence_fixed days occurs)
      have offset : 0 ≤ t.period * k * t.unit.length * nanosPerMilli :=
        Int.mul_nonneg (Int.mul_nonneg (Int.mul_nonneg (Int.le_of_lt period) (by omega))
          (Int.natCast_nonneg _)) (by decide)
      have positive := t.nominalMs_pos
      refine Instant.shift_lt (m := 2 * t.nominalMs * nanosPerMilli) start.nano reading.nano offset
        ?_ ?_ (clear.imp_right fun wide => ?_)
      all_goals
        simp only [nanosPerSecond, nanosPerMilli] at early exact ⊢
        omega
  · -- as many milliseconds as 64 bits hold are more than there are in the range of instants
    rw [longest] at early
    have product : 2 * maxInt64 ≤ (k + 2) * maxInt64 :=
      Int.mul_le_mul_of_nonneg_right (by omega) (by decide)
    simp only [spanMs, maxInt64] at range product early
    omega

/-! ## The search -/

/-- What the search goes past was before the threshold. -/
theorem search_passes {more : Nat} {index : Int} {result : Int × Option Instant}
    (searched : t.search? threshold more index = some result) :
    ∀ j, index ≤ j → j < result.1 →
      ∃ earlier, t.occurrence? j = some (some earlier) ∧ earlier < threshold := by
  fun_induction search? t threshold more index with
  | case1 more index exhausted =>
    cases searched
    intro j
    omega
  | case2 more index granted broken => cases searched
  | case3 more index granted ended =>
    cases searched
    intro j
    omega
  | case4 more index granted instant occurs reached =>
    cases searched
    intro j
    omega
  | case5 index granted instant occurs missed =>
    cases searched
    intro j
    omega
  | case6 index granted instant occurs missed more ih =>
    intro j first before
    by_cases here : j = index
    · exact ⟨instant, here ▸ occurs, not_le.mp missed⟩
    · exact ih searched j (by omega) before

theorem isExhausted_of_le {j : Int} (before : j ≤ k) (granted : t.isExhausted k = false) :
    t.isExhausted j = false := by
  simp only [isExhausted, Bool.and_eq_false_iff, decide_eq_false_iff_not] at granted ⊢
  omega

/-- The search ends at the first index that it can end at. -/
theorem search_finds {more : Nat} {index : Int} (onward : index ≤ k) (within : k ≤ index + more)
    (granted : t.isExhausted k = false) (occurs : t.occurrence? k = some (some instant))
    (reached : threshold ≤ instant)
    (early : ∀ j, index ≤ j → j < k →
      ∃ earlier, t.occurrence? j = some (some earlier) ∧ earlier < threshold) :
    t.search? threshold more index = some (k, some instant) := by
  fun_induction search? t threshold more index with
  | case1 more index exhausted =>
    rw [isExhausted_of_le onward granted] at exhausted
    cases exhausted
  | case2 more index _ broken =>
    by_cases here : index = k
    · cases (here ▸ broken).symm.trans occurs
    · obtain ⟨_, occurs', _⟩ := early index (Int.le_refl _) (by omega)
      cases broken.symm.trans occurs'
  | case3 more index _ ended =>
    by_cases here : index = k
    · cases (here ▸ ended).symm.trans occurs
    · obtain ⟨_, occurs', _⟩ := early index (Int.le_refl _) (by omega)
      cases ended.symm.trans occurs'
  | case4 more index _ found occurs' late =>
    by_cases here : index = k
    · cases (here ▸ occurs').symm.trans occurs
      rw [here]
    · obtain ⟨_, same, before⟩ := early index (Int.le_refl _) (by omega)
      cases occurs'.symm.trans same
      exact absurd late (not_le.mpr before)
  | case5 index _ found occurs' missed =>
    obtain rfl : index = k := by omega
    cases occurs'.symm.trans occurs
    exact absurd reached missed
  | case6 index _ found occurs' missed more ih =>
    by_cases here : index = k
    · cases (here ▸ occurs').symm.trans occurs
      exact absurd reached missed
    · exact ih (by omega) (by omega) fun j first => early j (by omega)

/-! ## The first occurrence that remains -/

/-- The first index, from that of the firing that comes next on, whose occurrence is not before the
threshold. -/
structure FirstAt (t : SimpleTimer) (threshold : Instant) (i : Int) (instant : Instant) : Prop where
  onward : t.index ≤ i
  bounded : i ≤ maxInt32
  occurs : t.occurrence? i = some (some instant)
  reached : threshold ≤ instant
  least : ∀ j earlier, t.index ≤ j → j < i → t.occurrence? j = some (some earlier) → earlier < threshold

/-- The repetitions leave a firing with this index, and the last instant one at this time. -/
structure Grants (t : SimpleTimer) (i : Int) (instant : Instant) : Prop where
  counted : t.repetitions < 0 ∨ i ≤ t.repetitions
  inTime : ∀ stop, t.stop? = some stop → instant ≤ stop

/-- The occurrences up to the first one that remains lie in the range of instants. -/
def Representable (t : SimpleTimer) (threshold : Instant) : Prop :=
  ∀ i instant, t.FirstAt threshold i instant → ∀ j, t.index ≤ j → j < i →
    ∃ earlier, t.occurrence? j = some (some earlier)

/-- Differences tell the threshold apart from what is a second later, or periods are long enough. -/
structure Measurable (t : SimpleTimer) (threshold : Instant) : Prop where
  start : t.start.Valid
  reading : threshold.Valid
  clear : threshold.isLeap = false ∨ 500 ≤ t.nominalMs

theorem isExhausted_eq_false : t.isExhausted k = false ↔ t.repetitions < 0 ∨ k ≤ t.repetitions := by
  simp only [isExhausted, Bool.and_eq_false_iff, decide_eq_false_iff_not]
  omega

theorem isPastStop_eq_false :
    t.isPastStop instant = false ↔ ∀ stop, t.stop? = some stop → instant ≤ stop := by
  cases stop : t.stop? <;> simp [isPastStop, stop]

theorem FirstAt.unique {i j : Int} {other : Instant} (first : t.FirstAt threshold i instant)
    (first' : t.FirstAt threshold j other) : i = j ∧ instant = other := by
  have order : ∀ {i j : Int} {a b : Instant}, t.FirstAt threshold i a → t.FirstAt threshold j b →
      i ≤ j := by
    intro i j a b first first'
    by_contra later
    exact not_le.mpr (first.least j b first'.onward (by omega) first'.occurs) first'.reached
  obtain rfl : i = j := by
    have before := order first first'
    have after := order first' first
    omega
  have same := first.occurs
  rw [first'.occurs] at same
  cases same
  exact ⟨rfl, rfl⟩

/-- Skipping finds the first occurrence that remains, if those before it can be told. -/
theorem Placed.found_first (placed : t.Placed) (measurable : t.Measurable threshold)
    (representable : t.Representable threshold) (next : t.next? = some current)
    (missed : current < threshold) {i : Int} (first : t.FirstAt threshold i instant)
    (counted : t.repetitions < 0 ∨ i ≤ t.repetitions) :
    t.found? threshold = some (i, some instant) := by
  have onward : t.index ≤ t.searchStart threshold := Int.le_max_right ..
  have bounded := first.bounded
  have guessed : t.searchStart threshold ≤ i := by
    by_contra below
    have before := placed.lt_of_left_out measurable.start measurable.reading measurable.clear next
      missed first.onward (by omega) first.occurs
    exact absurd first.reached (not_le.mpr before)
  refine search_finds guessed (by omega) (isExhausted_eq_false.mpr counted) first.occurs first.reached ?_
  intro j from' before
  obtain ⟨earlier, occurs⟩ := representable i instant first j (by omega) before
  exact ⟨earlier, occurs, first.least j earlier (by omega) before occurs⟩

/-- What skipping finds is the first occurrence that remains. -/
theorem Placed.first_of_found (placed : t.Placed) (measurable : t.Measurable threshold)
    (next : t.next? = some current) (missed : current < threshold)
    (held : t.found? threshold = some (k, some instant)) :
    t.FirstAt threshold k instant ∧ t.isExhausted k = false := by
  have within : t.searchStart threshold ≤ maxInt32 :=
    Int.max_le.mpr ⟨toInt32_getD_le _, placed.bounded.2⟩
  have onward : t.index ≤ t.searchStart threshold := Int.le_max_right ..
  obtain ⟨further, last, ended⟩ := search_found held
  obtain ⟨granted, occurs, reached⟩ := ended instant rfl
  refine ⟨⟨Int.le_trans onward further, ?_, occurs, reached, ?_⟩, granted⟩
  · exact Int.le_trans last (by omega)
  · intro j earlier first before occurs'
    by_cases below : j < t.searchStart threshold
    · exact placed.lt_of_left_out measurable.start measurable.reading measurable.clear next missed
        first below occurs'
    · obtain ⟨_, same, early⟩ := search_passes held j (by omega) before
      rw [occurs'] at same
      cases same
      exact early

/-- What is pending after a skip is the first occurrence that remained, and granted. -/
theorem Placed.skip_first (placed : t.Placed) (measurable : t.Measurable threshold)
    (next : t.next? = some current) (missed : current < threshold)
    (skipped : t.skipUntil? threshold = some after) (pending : after.next? = some instant) :
    t.FirstAt threshold after.index instant ∧ t.Grants after.index instant := by
  rw [skip_missed next missed] at skipped
  obtain ⟨⟨index, found?⟩, held, rfl⟩ := Option.map_eq_some_iff.mp skipped
  obtain ⟨rfl, inTime⟩ := Option.filter_eq_some_iff.mp pending
  obtain ⟨first, granted⟩ := placed.first_of_found measurable next missed held
  exact ⟨first, isExhausted_eq_false.mp granted, isPastStop_eq_false.mp (by simpa using inTime)⟩

/-- After a skip the first occurrence that remains is pending, if it is granted. -/
theorem Placed.next_skip_iff (placed : t.Placed) (measurable : t.Measurable threshold)
    (representable : t.Representable threshold) (next : t.next? = some current)
    (missed : current < threshold) (skipped : t.skipUntil? threshold = some after) :
    after.next? = some instant ↔ ∃ i, t.FirstAt threshold i instant ∧ t.Grants i instant := by
  constructor
  · intro pending
    exact ⟨_, placed.skip_first measurable next missed skipped pending⟩
  · rintro ⟨i, first, counted, inTime⟩
    rw [skip_missed next missed, placed.found_first measurable representable next missed first counted]
      at skipped
    cases skipped
    simp [SimpleTimer.awaiting, isPastStop_eq_false.mpr inTime]

/-! ## Taking the firings instead -/

/-- Takes one firing after another, until none is before the threshold. -/
inductive TakesUntil (threshold : Instant) : SimpleTimer → SimpleTimer → Prop
  | ends {t : SimpleTimer} (unmissed : ∀ current, t.next? = some current → threshold ≤ current) :
    TakesUntil threshold t t
  | takes {t after last : SimpleTimer} {current : Instant} {taken? : Option Instant}
    (next : t.next? = some current) (missed : current < threshold)
    (advances : t.advance? = some (taken?, after)) (rest : TakesUntil threshold after last) :
    TakesUntil threshold t last

/-- Under the index of a firing that was missed there is nothing at or after the threshold. -/
theorem Placed.occurrence_missed (placed : t.Placed) (next : t.next? = some current)
    (missed : current < threshold) (occurs : t.occurrence? t.index = some (some instant)) :
    instant < threshold := by
  by_cases zero : t.index = 0
  · rw [zero] at occurs
    rw [placed.first current next zero] at missed
    exact lt_of_le_of_lt (occurrence_zero placed.valid occurs) missed
  · rw [placed.later current next zero] at occurs
    cases occurs
    exact missed

variable {taken? : Option Instant}

theorem Placed.advanced (placed : t.Placed) (advances : t.advance? = some (taken?, after)) :
    after.Placed := by
  have moved : (Trigger.simpleTimer t).advance? = some (taken?, .simpleTimer after) := by
    rw [Trigger.advance?, advances]
    rfl
  cases ((Trigger.Placed.simpleTimer placed).take moved).2 with
  | simpleTimer still => exact still

/-- Taking a missed firing changes nothing about the first occurrence that remains. -/
theorem Placed.firstAt_advance (placed : t.Placed) (next : t.next? = some current)
    (missed : current < threshold) (advances : t.advance? = some (taken?, after)) {i : Int} :
    after.FirstAt threshold i instant ↔ t.FirstAt threshold i instant := by
  have high := placed.bounded.2
  obtain ⟨_, next?, _, rfl⟩ := placed.advance_awaits next advances
  have index : (t.awaiting (nextInt32 t.index) next?).index = nextInt32 t.index := rfl
  have occurrence : ∀ k, (t.awaiting (nextInt32 t.index) next?).occurrence? k = t.occurrence? k :=
    fun _ => rfl
  constructor
  · rintro ⟨onward, bounded, occurs, reached, least⟩
    rw [index] at onward least
    simp only [occurrence] at occurs least
    refine ⟨by simp only [nextInt32] at onward; omega, bounded, occurs, reached, ?_⟩
    intro j earlier first before occurs'
    by_cases here : j = t.index
    · exact placed.occurrence_missed next missed (here ▸ occurs')
    · exact least j earlier (by simp only [nextInt32]; omega) before occurs'
  · rintro ⟨onward, bounded, occurs, reached, least⟩
    have later : i ≠ t.index := by
      rintro rfl
      exact not_le.mpr (placed.occurrence_missed next missed occurs) reached
    refine ⟨by rw [index]; simp only [nextInt32]; omega, bounded, by rw [occurrence]; exact occurs,
      reached, ?_⟩
    intro j earlier first before occurs'
    rw [index] at first
    rw [occurrence] at occurs'
    exact least j earlier (by simp only [nextInt32] at first; omega) before occurs'

theorem Placed.grants (placed : t.Placed) (next : t.next? = some current) :
    t.Grants t.index current where
  counted := by
    have allowed := placed.allowed current next
    omega
  inTime := isPastStop_eq_false.mp (placed.inTime current next)

/-- If nothing follows a missed firing, the first occurrence that remains is not granted. -/
theorem Placed.not_granted_of_ended (placed : t.Placed) (representable : t.Representable threshold)
    (next : t.next? = some current) (missed : current < threshold)
    (advances : t.advance? = some (taken?, after)) (ended : after.next? = none) {i : Int}
    (first : t.FirstAt threshold i instant) : ¬ t.Grants i instant := by
  rintro ⟨counted, inTime⟩
  have later : i ≠ t.index := by
    rintro rfl
    exact not_le.mpr (placed.occurrence_missed next missed first.occurs) first.reached
  have onward := first.onward
  have bounded := first.bounded
  have index : nextInt32 t.index = t.index + 1 := by
    simp only [nextInt32]
    omega
  have granted : t.isExhausted (t.index + 1) = false :=
    isExhausted_of_le (by omega) (isExhausted_eq_false.mpr counted)
  obtain ⟨_, next?, follows, rfl⟩ := placed.advance_awaits next advances
  rw [index, following?, granted] at follows
  have follows : t.occurrence? (t.index + 1) = some next? := follows
  simp only [SimpleTimer.awaiting, Option.filter_eq_none_iff] at ended
  by_cases here : i = t.index + 1
  · cases (here ▸ first.occurs).symm.trans follows
    have kept := ended instant rfl
    simp [isPastStop_eq_false.mpr inTime] at kept
  · obtain ⟨earlier, occurs⟩ := representable i instant first (t.index + 1) (by omega) (by omega)
    cases occurs.symm.trans follows
    have before := first.least (t.index + 1) earlier (by omega) (by omega) occurs
    have inTime' : t.isPastStop earlier = false := isPastStop_eq_false.mpr fun stop held =>
      le_trans (le_of_lt (lt_of_lt_of_le before first.reached)) (inTime stop held)
    have kept := ended earlier rfl
    simp [inTime'] at kept

theorem Placed.measurable_advance (placed : t.Placed) (measurable : t.Measurable threshold)
    (next : t.next? = some current) (advances : t.advance? = some (taken?, after)) :
    after.Measurable threshold := by
  obtain ⟨_, next?, _, rfl⟩ := placed.advance_awaits next advances
  exact ⟨measurable.start, measurable.reading, measurable.clear⟩

theorem Placed.representable_advance (placed : t.Placed) (representable : t.Representable threshold)
    (next : t.next? = some current) (missed : current < threshold)
    (advances : t.advance? = some (taken?, after)) : after.Representable threshold := by
  intro i instant first j later before
  have occurs :=
    representable i instant ((placed.firstAt_advance next missed advances).mp first) j
  obtain ⟨_, next?, _, rfl⟩ := placed.advance_awaits next advances
  have high := placed.bounded.2
  exact occurs (by simp only [SimpleTimer.awaiting, nextInt32] at later; omega) before

/-- Skipping after a missed firing was taken leads to the same pending firing. -/
theorem Placed.skip_advance (placed : t.Placed) (measurable : t.Measurable threshold)
    (representable : t.Representable threshold) (next : t.next? = some current)
    (missed : current < threshold) (advances : t.advance? = some (taken?, after))
    {late whole : SimpleTimer} (skipped : after.skipUntil? threshold = some late)
    (skipped' : t.skipUntil? threshold = some whole) : late.next? = whole.next? := by
  have still := placed.advanced advances
  have transfers : ∀ {i instant}, after.FirstAt threshold i instant ↔ t.FirstAt threshold i instant :=
    placed.firstAt_advance next missed advances
  have grants : ∀ {i instant}, after.Grants i instant ↔ t.Grants i instant := by
    intro i instant
    obtain ⟨_, next?, _, rfl⟩ := placed.advance_awaits next advances
    exact ⟨fun granted => ⟨granted.counted, granted.inTime⟩,
      fun granted => ⟨granted.counted, granted.inTime⟩⟩
  ext instant
  rw [placed.next_skip_iff measurable representable next missed skipped']
  cases following : after.next? with
  | none =>
    rw [skip_unmissed (by simp [following])] at skipped
    cases skipped
    rw [following]
    refine iff_of_false (by simp) ?_
    rintro ⟨i, first, granted⟩
    exact placed.not_granted_of_ended representable next missed advances following first granted
  | some follower =>
    by_cases reached : threshold ≤ follower
    · have nonzero : after.index ≠ 0 := by
        have forward := placed.bounded.1
        obtain ⟨_, next?, _, rfl⟩ := placed.advance_awaits next advances
        simp only [SimpleTimer.awaiting, nextInt32, maxInt32]
        omega
      have first : t.FirstAt threshold after.index follower := transfers.mp
        ⟨Int.le_refl _, still.bounded.2, still.later follower following nonzero, reached, by omega⟩
      have granted : t.Grants after.index follower := grants.mp (still.grants following)
      rw [skip_unmissed (by simpa [following] using reached)] at skipped
      cases skipped
      rw [following]
      constructor
      · rintro ⟨⟩
        exact ⟨_, first, granted⟩
      · rintro ⟨i, first', _⟩
        rw [(first.unique first').2]
    · have measurable' := placed.measurable_advance measurable next advances
      have representable' := placed.representable_advance representable next missed advances
      rw [still.next_skip_iff measurable' representable' following (not_le.mp reached) skipped]
      simp only [transfers, grants]

/-- Taking a firing keeps the start and the zone. -/
theorem startShows_advance (advances : t.advance? = some (taken?, after)) :
    after.startShows = t.startShows := by
  have moved : (Trigger.simpleTimer t).advance? = some (taken?, .simpleTimer after) := by
    rw [Trigger.advance?, advances]
    rfl
  exact Trigger.startShows_of_plan (Trigger.advance_plan moved)

theorem TakesUntil.next_skip {last whole : SimpleTimer} (takes : TakesUntil threshold t last)
    (shows : t.startShows = true) (placed : t.Placed) (measurable : t.Measurable threshold)
    (representable : t.Representable threshold) (skipped : t.skipUntil? threshold = some whole) :
    last.next? = whole.next? := by
  induction takes generalizing whole with
  | ends unmissed =>
    rw [skip_unmissed unmissed] at skipped
    cases skipped
    rfl
  | takes next missed advances _ ih =>
    have shows' := (startShows_advance advances).trans shows
    obtain ⟨late, skipped'⟩ := skip_answers shows' threshold
    rw [← placed.skip_advance measurable representable next missed advances skipped' skipped]
    exact ih shows' (placed.advanced advances) (placed.measurable_advance measurable next advances)
      (placed.representable_advance representable next missed advances) skipped'

end SimpleTimer

theorem Trigger.newSimpleTimer_start {start : Instant} {period : Int} {unit : TimeUnit}
    {repetitions : Int} {stop? : Option Instant} {zoneName : String} {t : Trigger}
    (created : newSimpleTimer start period unit repetitions stop? zoneName = .ok t) :
    t = .simpleTimer ⟨start, period, unit, repetitions, stop?, zoneName, some start, 0, false⟩ := by
  simp only [newSimpleTimer, bind, Except.bind, pure, Except.pure] at created
  split at created
  · cases created
  split at created
  · cases created
  split at created <;> cases created
  rfl

/-- A timer is made only with a zone that is known. -/
theorem Trigger.newSimpleTimer_zone {start : Instant} {period : Int} {unit : TimeUnit}
    {repetitions : Int} {stop? : Option Instant} {zoneName : String} {t : Trigger}
    (created : newSimpleTimer start period unit repetitions stop? zoneName = .ok t) :
    ∃ zone, Zone.named? zoneName = some zone := by
  simp only [newSimpleTimer, bind, Except.bind, pure, Except.pure] at created
  split at created
  · cases created
  split at created
  · cases created
  split at created <;> cases created
  rename_i known
  exact Option.ne_none_iff_exists'.mp fun unknown => known (by rw [unknown]; rfl)

/-- However far a simple timer has come whose start shows as a local time, wherever days are counted,
skipping a missed firing makes it wait for the first occurrence that remains, under its index, if the
repetitions and the last instant grant that occurrence, and else ends it. Taking the missed firings one by
one leads to the same pending firing, if it comes to an end. A threshold within a leap second needs a period
of half a second or more. That days come in order rests on the zones, which are those of `Zone.Table` and
have `Zone.steady`. -/
theorem SimpleTimer.skipping_finds_what_remains {start threshold current : Instant} {period : Int}
    {unit : TimeUnit} {repetitions : Int} {stop? : Option Instant} {zoneName : String}
    {made : Trigger} {t : SimpleTimer} {calls : List Trigger.Call} {taken : List Instant}
    (created : Trigger.newSimpleTimer start period unit repetitions stop? zoneName = .ok made)
    (valid : start.Valid) (ran : made.run calls = some (taken, .simpleTimer t))
    (shows : t.startShows = true) (reading : threshold.Valid)
    (clear : threshold.isLeap = false ∨ 500 ≤ t.nominalMs) (next : t.next? = some current)
    (missed : current < threshold) (representable : t.Representable threshold) :
    ∃ after, t.skipUntil? threshold = some after ∧
      (∀ i instant, t.FirstAt threshold i instant → t.Grants i instant →
        after.next? = some instant ∧ after.index = i ∧ after.ended = false) ∧
      ((¬ ∃ i instant, t.FirstAt threshold i instant ∧ t.Grants i instant) →
        after.next? = none ∧ after.ended = true) ∧
      ∀ last, TakesUntil threshold t last → last.next? = after.next? := by
  have begun : made.Made := .simpleTimer created valid.nano
  have plan := Trigger.run_plan ran
  obtain rfl : t.start = start := by
    rw [Trigger.newSimpleTimer_start created] at plan
    cases plan
    rfl
  have measurable : t.Measurable threshold := ⟨valid, reading, clear⟩
  cases begun.placed.1.run_placed ran with
  | simpleTimer placed =>
    obtain ⟨after, skipped⟩ := skip_answers shows threshold
    have pending : ∀ instant, after.next? = some instant ↔
        ∃ i, t.FirstAt threshold i instant ∧ t.Grants i instant :=
      fun instant => placed.next_skip_iff measurable representable next missed skipped
    have ended : after.ended = after.next?.isNone := by
      rw [skip_missed next missed] at skipped
      obtain ⟨found, _, rfl⟩ := Option.map_eq_some_iff.mp skipped
      rfl
    refine ⟨after, skipped, ?_, ?_, fun last takes =>
      takes.next_skip shows placed measurable representable skipped⟩
    · intro i instant first granted
      have held := (pending instant).mpr ⟨i, first, granted⟩
      obtain ⟨first', _⟩ := placed.skip_first measurable next missed skipped held
      exact ⟨held, (first'.unique first).1, by rw [ended, held]; rfl⟩
    · intro none_left
      have nothing : after.next? = none := by
        by_contra left
        obtain ⟨instant, held⟩ := Option.ne_none_iff_exists'.mp left
        obtain ⟨i, first, granted⟩ := (pending instant).mp held
        exact none_left ⟨i, instant, first, granted⟩
      exact ⟨nothing, by rw [ended, nothing]; rfl⟩

/-- Nine o'clock every day in Tunis, from the day before clocks go forward. -/
def SimpleTimer.nineInTunis : SimpleTimer :=
  ⟨⟨1206777600, 0⟩, 1, .days, -1, none, "Africa/Tunis", some ⟨1206777600, 0⟩, 0, false⟩

theorem SimpleTimer.nineInTunis_occurs :
    (Zone.named? "Africa/Tunis").isNone = false ∧
      nineInTunis.startShows = true ∧
      nineInTunis.occurrence? 0 = some (some ⟨1206777600, 0⟩) ∧
      nineInTunis.occurrence? 1 = some (some ⟨1206860400, 0⟩) ∧
      nineInTunis.occurrence? 2 = some (some ⟨1206946800, 0⟩) := by
  decide +kernel

theorem SimpleTimer.nineInTunis_first :
    nineInTunis.FirstAt ⟨1206860401, 0⟩ 2 ⟨1206946800, 0⟩ := by
  obtain ⟨_, _, zero, one, two⟩ := nineInTunis_occurs
  refine ⟨by decide, by decide, two, by decide, ?_⟩
  intro j earlier (first : 0 ≤ j) before occurs
  obtain rfl | rfl : j = 0 ∨ j = 1 := by omega
  · rw [zero] at occurs
    cases occurs
    decide
  · rw [one] at occurs
    cases occurs
    decide

/-- A second after the nine o'clock of the day on which clocks went forward, the next one is 23 hours and
a day after the start, and the second after it. -/
theorem SimpleTimer.skipping_finds_what_remains_in_tunis :
    ∃ after, nineInTunis.skipUntil? ⟨1206860401, 0⟩ = some after ∧
      after.next? = some ⟨1206946800, 0⟩ ∧ after.index = 2 ∧ after.ended = false := by
  obtain ⟨known, shows, zero, one, two⟩ := nineInTunis_occurs
  have created : Trigger.newSimpleTimer ⟨1206777600, 0⟩ 1 .days (-1) none "Africa/Tunis" =
      .ok (.simpleTimer nineInTunis) := by
    simp [Trigger.newSimpleTimer, Trigger.checkWindow, known, nineInTunis, Except.mapError, bind,
      Except.bind, pure, Except.pure]
  have ran : (Trigger.simpleTimer nineInTunis).run [] = some ([], .simpleTimer nineInTunis) := rfl
  have representable : nineInTunis.Representable ⟨1206860401, 0⟩ := by
    intro i instant first j (after : 0 ≤ j) before
    obtain ⟨rfl, _⟩ := first.unique nineInTunis_first
    obtain rfl | rfl : j = 0 ∨ j = 1 := by omega
    · exact ⟨_, zero⟩
    · exact ⟨_, one⟩
  obtain ⟨after, skipped, finds, _⟩ := skipping_finds_what_remains created ⟨by decide, by decide⟩ ran
    shows ⟨by decide, by decide⟩ (.inl (by decide)) rfl (by decide) representable
  exact ⟨after, skipped, finds 2 _ nineInTunis_first ⟨.inl (by decide), by rintro _ ⟨⟩⟩⟩

/-- Ten firings a second from the second before midnight. Within the leap second that follows, 0.3 seconds
from its beginning, the eleventh is the first that remains, at midnight; the search begins after it. -/
theorem SimpleTimer.skipping_overlooks_after_a_leap_second :
    let t : SimpleTimer := ⟨⟨59, 0⟩, 100, .millis, -1, none, "UTC", some ⟨59, 0⟩, 0, false⟩
    Trigger.newSimpleTimer ⟨59, 0⟩ 100 .millis (-1) none "UTC" = .ok (.simpleTimer t) ∧
      t.startShows = true ∧ t.FirstAt ⟨59, 1300000000⟩ 10 ⟨60, 0⟩ ∧ t.Grants 10 ⟨60, 0⟩ ∧
      t.Representable ⟨59, 1300000000⟩ ∧
      (t.skipUntil? ⟨59, 1300000000⟩).map (fun after => (after.next?, after.index)) =
        some (some ⟨60, 200000000⟩, 12) := by
  intro t
  have early : ∀ n : Nat, n < 10 →
      ∃ earlier ∈ (t.occurrence? n).join, earlier < ⟨59, 1300000000⟩ := by decide
  have first : t.FirstAt ⟨59, 1300000000⟩ 10 ⟨60, 0⟩ := by
    refine ⟨by decide, by decide, by decide, by decide, ?_⟩
    intro j earlier (first : 0 ≤ j) before occurs
    lift j to Nat using first
    obtain ⟨_, occurs', early⟩ := early j (by omega)
    cases occurs.symm.trans (Option.join_eq_some_iff.mp occurs')
    exact early
  refine ⟨by decide, rfl, first, ⟨.inl (by decide), by rintro _ ⟨⟩⟩, ?_, by decide⟩
  intro i instant first' j (after : 0 ≤ j) before
  obtain ⟨rfl, _⟩ := first'.unique first
  lift j to Nat using after
  obtain ⟨earlier, occurs, _⟩ := early j (by omega)
  exact ⟨earlier, Option.join_eq_some_iff.mp occurs⟩

end Punctual
