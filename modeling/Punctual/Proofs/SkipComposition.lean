import Mathlib.Data.Int.LeastGreatest
import Punctual.Proofs.IntervalProgress
import Punctual.Proofs.MissedFirings
import Punctual.Proofs.TimerSkips

/-!
Skips one after the other. A second skip starts from a trigger that a first one has moved or ended. It leads
to the firing that a single skip to the later of both thresholds leads to: what remains after the sooner
threshold begins before what remains after the later one, and nothing in between is at or after that.

Times within leap seconds are left out, as by the skips themselves: there an instant can come before another
and be further from the start.
-/
namespace Punctual

/-! ## The same firing -/

namespace Trigger

/-- Two triggers wait for the same firing: at one instant and, if there is one, under one index. -/
structure SameFiring (t u : Trigger) : Prop where
  next : t.next? = u.next?
  index : t.next?.isSome → t.index = u.index

@[refl]
theorem SameFiring.refl (t : Trigger) : t.SameFiring t := ⟨rfl, fun _ => rfl⟩

/-- Passes over the firings before one threshold, then over those before another. -/
def skipTwice? (a b : Instant) (t : Trigger) : Option Trigger :=
  (t.skipUntil? a).bind (skipUntil? b)

end Trigger

/-! ## Intervals -/

namespace Interval

variable {t once : Interval} {a b current : Instant}

/-- From the start on, a later threshold has no smaller index. -/
theorem Placed.indexAt_mono (placed : t.Placed) (plain : t.start.isLeap = false)
    (plain_a : a.isLeap = false) (plain_b : b.isLeap = false) (begun : t.start ≤ a) (sooner : a ≤ b) :
    t.indexAt a ≤ t.indexAt b := by
  have positive := placed.period
  have elapsed : 0 ≤ (a.since t.start).tdiv nanosPerMilli ∧
      (a.since t.start).tdiv nanosPerMilli ≤ (b.since t.start).tdiv nanosPerMilli := by
    rw [Instant.le_iff_toNanos plain plain_a] at begun
    rw [Instant.le_iff_toNanos plain_a plain_b] at sooner
    rw [Instant.since_plain plain_a plain, Instant.since_plain plain_b plain,
      Int.tdiv_eq_ediv_of_nonneg (by omega), Int.tdiv_eq_ediv_of_nonneg (by omega)]
    simp only [nanosPerMilli]
    omega
  unfold indexAt
  dsimp only
  generalize (a.since t.start).tdiv nanosPerMilli = passed at elapsed ⊢
  generalize (b.since t.start).tdiv nanosPerMilli = passed' at elapsed ⊢
  have further := ceil_le positive (Int.le_trans elapsed.2 (le_mul_ceil passed' positive))
  have quotient := Int.ediv_nonneg elapsed.1 (Int.le_of_lt positive)
  have least : minInt32 < 0 := by decide
  have bounded := toInt32_getD_le (passed' / t.periodMs + if passed' % t.periodMs = 0 then 0 else 1)
  rcases toInt32_getD_cases (passed' / t.periodMs + if passed' % t.periodMs = 0 then 0 else 1)
    with same | cut
  · rw [same] at bounded ⊢
    exact toInt32_getD_le_of_le (by split <;> omega) further bounded
  · rw [cut]
    exact toInt32_getD_le _

/-- Skipping to a threshold whose index is reached already does nothing. -/
theorem Placed.skip_again (placed : t.Placed) (skipped : t.skipUntil? a = some once) (sooner : b ≤ a)
    (covered : ∀ left, once.next? = some left → left < b → t.indexAt b ≤ t.indexAt a) :
    once.skipUntil? b = some once := by
  by_cases unmissed : ∀ left, once.next? = some left → b ≤ left
  · exact skip_unmissed unmissed
  obtain ⟨left, next', missed'⟩ : ∃ left, once.next? = some left ∧ left < b := by
    simpa using unmissed
  have covered := covered left next' missed'
  by_cases still : ∀ current, t.next? = some current → a ≤ current
  · rw [skip_unmissed still] at skipped
    cases skipped
    exact absurd (le_trans sooner (still left next')) (not_le.mpr missed')
  obtain ⟨current, next, missed⟩ : ∃ current, t.next? = some current ∧ current < a := by
    simpa using still
  have placed' := (placed.skipped skipped).1
  rw [placed.skip_missed next missed] at skipped
  cases skipped
  have index : max (t.indexAt b) (max (t.indexAt a) t.count) = max (t.indexAt a) t.count := by omega
  rw [placed'.skip_missed next' missed']
  change some { t with
    count := max (t.indexAt b) (max (t.indexAt a) t.count)
    next? := t.pending? (max (t.indexAt b) (max (t.indexAt a) t.count)) } = _
  rw [index]

/-- Skipping goes on to a later threshold as it goes there at once. -/
theorem Placed.skip_further (placed : t.Placed) (start : t.start.Valid) (plain : t.start.isLeap = false)
    (plain_a : a.isLeap = false) (plain_b : b.isLeap = false) (later : a ≤ b)
    (next : t.next? = some current) (missed : current < a) {again whole : Interval}
    (skipped : t.skipUntil? a = some once) (skipped' : once.skipUntil? b = some again)
    (passed : t.skipUntil? b = some whole) :
    (Trigger.interval again).SameFiring (.interval whole) := by
  have placed' := (placed.skipped skipped).1
  have begun : t.start ≤ a := le_trans (placed.start_le next) (le_of_lt missed)
  have further := placed.indexAt_mono plain plain_a plain_b begun later
  have counted := placed.bounded.1
  rw [placed.skip_missed next (lt_of_lt_of_le missed later)] at passed
  rw [placed.skip_missed next missed] at skipped
  cases passed
  cases skipped
  cases left : t.pending? (max (t.indexAt a) t.count) with
  | none =>
    -- nothing is pending under the first index, hence under no later one
    have still : ∀ x, t.pending? (max (t.indexAt a) t.count) = some x → b ≤ x := by simp [left]
    rw [skip_unmissed still] at skipped'
    cases skipped'
    have none_left : t.pending? (max (t.indexAt b) t.count) = none := by
      by_contra remains
      obtain ⟨x, pending⟩ := Option.ne_none_iff_exists'.mp remains
      obtain ⟨_, pending'⟩ := placed.pending_of_le start.inRange
        (by omega : 0 ≤ max (t.indexAt a) t.count) (by omega) pending
      rw [left] at pending'
      cases pending'
    exact ⟨left.trans none_left.symm, fun remains => by simp [Trigger.next?, left] at remains⟩
  | some x =>
    by_cases reached : b ≤ x
    · -- the first skip went past the second threshold
      have still : ∀ y, t.pending? (max (t.indexAt a) t.count) = some y → b ≤ y := by
        simpa [left] using reached
      rw [skip_unmissed still] at skipped'
      cases skipped'
      have index := placed.indexAt_le plain plain_b (le_trans begun later) placed'.bounded.2
        (pending_some left).2.1 reached
      have same : max (t.indexAt b) t.count = max (t.indexAt a) t.count := by
        dsimp only at index
        omega
      rw [same]
    · have same : max (t.indexAt b) (max (t.indexAt a) t.count) = max (t.indexAt b) t.count := by
        omega
      rw [placed'.skip_missed left (not_le.mp reached)] at skipped'
      cases skipped'
      change Trigger.SameFiring (.interval { t with
        count := max (t.indexAt b) (max (t.indexAt a) t.count)
        next? := t.pending? (max (t.indexAt b) (max (t.indexAt a) t.count)) }) _
      rw [same]

/-- Of two skips the one to the later threshold counts. -/
theorem Placed.skip_skip (placed : t.Placed) (start : t.start.Valid) (plain : t.start.isLeap = false)
    (plain_a : a.isLeap = false) (plain_b : b.isLeap = false) {again whole : Interval}
    (skipped : t.skipUntil? a = some once) (skipped' : once.skipUntil? b = some again)
    (passed : t.skipUntil? (max a b) = some whole) :
    (Trigger.interval again).SameFiring (.interval whole) := by
  obtain ⟨placed', same⟩ := placed.skipped skipped
  rcases le_total b a with sooner | later
  · rw [max_eq_left sooner, skipped] at passed
    cases passed
    have covered : ∀ left, once.next? = some left → left < b → t.indexAt b ≤ t.indexAt a := by
      intro left next' missed'
      have begun : t.start ≤ left := same ▸ placed'.start_le next'
      exact placed.indexAt_mono plain plain_b plain_a (le_of_lt (lt_of_le_of_lt begun missed')) sooner
    rw [placed.skip_again skipped sooner covered] at skipped'
    cases skipped'
    rfl
  · rw [max_eq_right later] at passed
    by_cases unmissed : ∀ current, t.next? = some current → a ≤ current
    · rw [skip_unmissed unmissed] at skipped
      cases skipped
      cases passed.symm.trans skipped'
      rfl
    · obtain ⟨current, next, missed⟩ : ∃ current, t.next? = some current ∧ current < a := by
        simpa using unmissed
      exact placed.skip_further start plain plain_a plain_b later next missed skipped skipped' passed

end Interval

/-! ## Simple timers -/

namespace SimpleTimer

variable {t once : SimpleTimer} {a b current x y : Instant} {i j : Int}

/-- What remains first after a threshold remains first after a later one that it is not before. -/
theorem FirstAt.later (first : t.FirstAt a i x) (later : a ≤ b) (reached : b ≤ x) : t.FirstAt b i x where
  onward := first.onward
  bounded := first.bounded
  occurs := first.occurs
  reached := reached
  least k earlier after before occurs := lt_of_lt_of_le (first.least k earlier after before occurs) later

/-- Before a later threshold something remains no later. -/
theorem FirstAt.exists_sooner (first : t.FirstAt b j y) (sooner : a ≤ b) :
    ∃ i x, t.FirstAt a i x ∧ i ≤ j ∧ x ≤ y := by
  obtain ⟨i, ⟨onward, x, occurs, reached⟩, least⟩ := Int.exists_least_of_bdd
    (P := fun i => t.index ≤ i ∧ ∃ x, t.occurrence? i = some (some x) ∧ a ≤ x)
    ⟨t.index, fun _ remains => remains.1⟩
    ⟨j, first.onward, y, first.occurs, le_trans sooner first.reached⟩
  have before : i ≤ j := least j ⟨first.onward, y, first.occurs, le_trans sooner first.reached⟩
  refine ⟨i, x, ⟨onward, Int.le_trans before first.bounded, occurs, reached, ?_⟩, before, ?_⟩
  · intro k earlier after before occurs
    by_contra late
    have further := least k ⟨after, earlier, occurs, not_lt.mp late⟩
    omega
  · rcases Int.lt_or_eq_of_le before with before | rfl
    · exact le_of_lt (lt_of_lt_of_le (first.least i x onward before occurs) first.reached)
    · rw [first.occurs] at occurs
      cases occurs
      exact le_refl _

theorem Grants.of_le (granted : t.Grants j y) (before : i ≤ j) (sooner : x ≤ y) : t.Grants i x where
  counted := granted.counted.imp_right (Int.le_trans before)
  inTime stop held := le_trans sooner (granted.inTime stop held)

/-- A timer that was skipped is as it was, apart from how far it has come. -/
theorem skip_same {threshold : Instant} (skipped : t.skipUntil? threshold = some once) :
    (∀ k, once.occurrence? k = t.occurrence? k) ∧
      (∀ k instant, once.Grants k instant ↔ t.Grants k instant) ∧
      (∀ later, t.Measurable later → once.Measurable later) := by
  by_cases unmissed : ∀ current, t.next? = some current → threshold ≤ current
  · rw [skip_unmissed unmissed] at skipped
    cases skipped
    exact ⟨fun _ => rfl, fun _ _ => Iff.rfl, fun _ => id⟩
  · obtain ⟨current, next, missed⟩ : ∃ current, t.next? = some current ∧ current < threshold := by
      simpa using unmissed
    rw [skip_missed next missed] at skipped
    obtain ⟨_, _, rfl⟩ := Option.map_eq_some_iff.mp skipped
    exact ⟨fun _ => rfl,
      fun _ _ => ⟨fun granted => ⟨granted.counted, granted.inTime⟩,
        fun granted => ⟨granted.counted, granted.inTime⟩⟩,
      fun _ measurable => ⟨measurable.start, measurable.reading, measurable.clear⟩⟩

/-- After a skip that leaves a firing, the same remains first after a later threshold as before it. -/
theorem Placed.firstAt_skip (placed : t.Placed) (measurable : t.Measurable a)
    (next : t.next? = some current) (missed : current < a) (skipped : t.skipUntil? a = some once)
    (held : once.next? = some x) (later : a ≤ b) : once.FirstAt b j y ↔ t.FirstAt b j y := by
  obtain ⟨first, _⟩ := placed.skip_first measurable next missed skipped held
  have occurrence := (skip_same skipped).1
  constructor
  · rintro ⟨onward, bounded, occurs, reached, least⟩
    simp only [occurrence] at occurs least
    refine ⟨Int.le_trans first.onward onward, bounded, occurs, reached, ?_⟩
    intro k earlier after before occurs'
    by_cases passed : k < once.index
    · exact lt_of_lt_of_le (first.least k earlier after passed occurs') later
    · exact least k earlier (Int.not_lt.mp passed) before occurs'
  · rintro ⟨onward, bounded, occurs, reached, least⟩
    refine ⟨?_, bounded, by rw [occurrence]; exact occurs, reached, ?_⟩
    · by_contra passed
      have early := first.least j y onward (Int.not_le.mp passed) occurs
      exact absurd (le_trans later reached) (not_le.mpr early)
    · intro k earlier after before occurs'
      rw [occurrence] at occurs'
      exact least k earlier (Int.le_trans first.onward after) before occurs'

/-- What waits for the firing that is left after a threshold, or ends with it, waits as the timer does that
skips there at once. -/
theorem Placed.sameFiring_skip (placed : t.Placed) (measurable : t.Measurable b)
    (representable : t.Representable b) (next : t.next? = some current) (missed : current < b)
    {u whole : SimpleTimer} (passed : t.skipUntil? b = some whole)
    (waits : ∀ y, u.next? = some y → t.FirstAt b u.index y ∧ t.Grants u.index y)
    (ends : u.next? = none → ∀ i y, t.FirstAt b i y → ¬ t.Grants i y) :
    (Trigger.simpleTimer u).SameFiring (.simpleTimer whole) := by
  cases held : u.next? with
  | none =>
    have ended : whole.next? = none := by
      by_contra remains
      obtain ⟨y, pending⟩ := Option.ne_none_iff_exists'.mp remains
      obtain ⟨first, granted⟩ := placed.skip_first measurable next missed passed pending
      exact ends held _ y first granted
    exact ⟨held.trans ended.symm, fun remains => by simp [Trigger.next?, held] at remains⟩
  | some y =>
    obtain ⟨first, granted⟩ := waits y held
    have pending :=
      (placed.next_skip_iff measurable representable next missed passed).mpr ⟨_, first, granted⟩
    obtain ⟨first', _⟩ := placed.skip_first measurable next missed passed pending
    exact ⟨held.trans pending.symm, fun _ => (first.unique first').1⟩

theorem Placed.skipped (placed : t.Placed) {threshold : Instant}
    (skipped : t.skipUntil? threshold = some once) : once.Placed := by
  rcases placed.skip_cases skipped with rfl | ⟨_, _, _, _, _, still⟩
  · exact placed
  · exact still

/-- Skipping goes on to a later threshold as it goes there at once. -/
theorem Placed.skip_further (placed : t.Placed) (measurable : t.Measurable a)
    (measurable' : t.Measurable b) (representable : t.Representable b) (later : a ≤ b)
    (next : t.next? = some current) (missed : current < a) {again whole : SimpleTimer}
    (skipped : t.skipUntil? a = some once) (skipped' : once.skipUntil? b = some again)
    (passed : t.skipUntil? b = some whole) :
    (Trigger.simpleTimer again).SameFiring (.simpleTimer whole) := by
  have missed' := lt_of_lt_of_le missed later
  obtain ⟨occurrence, grants, measures⟩ := skip_same skipped
  cases held : once.next? with
  | none =>
    -- what remained after the later threshold would have been left by the first skip
    rw [skip_unmissed (by simp [held])] at skipped'
    cases skipped'
    apply placed.sameFiring_skip measurable' representable next missed' passed (by simp [held])
    intro _ j y first granted
    obtain ⟨i, x, first', before, sooner⟩ := first.exists_sooner later
    have representable' : t.Representable a := by
      intro k z other l after early
      obtain ⟨rfl, _⟩ := other.unique first'
      exact representable j y first l after (by omega)
    have pending := (placed.next_skip_iff measurable representable' next missed skipped).mpr
      ⟨i, first', granted.of_le before sooner⟩
    rw [held] at pending
    cases pending
  | some x =>
    obtain ⟨first, granted⟩ := placed.skip_first measurable next missed skipped held
    by_cases reached : b ≤ x
    · -- the first skip went past the second threshold
      rw [skip_unmissed (by simpa [held] using reached)] at skipped'
      cases skipped'
      refine placed.sameFiring_skip measurable' representable next missed' passed ?_ (by simp [held])
      intro y held'
      rw [held] at held'
      cases held'
      exact ⟨first.later later reached, granted⟩
    · have transfers : ∀ {j y}, once.FirstAt b j y ↔ t.FirstAt b j y :=
        placed.firstAt_skip measurable next missed skipped held later
      have placed' := placed.skipped skipped
      have left := not_le.mp reached
      obtain ⟨_, grants', _⟩ := skip_same skipped'
      have representable' : once.Representable b := by
        intro i y first' j after before
        rw [occurrence]
        exact representable i y (transfers.mp first') j (Int.le_trans first.onward after) before
      apply placed.sameFiring_skip measurable' representable next missed' passed
      · intro y held'
        obtain ⟨first', granted'⟩ :=
          placed'.skip_first (measures b measurable') held left skipped' held'
        exact ⟨transfers.mp first', (grants _ _).mp granted'⟩
      · intro ended i y first' granted'
        have pending :=
          (placed'.next_skip_iff (measures b measurable') representable' held left skipped').mpr
            ⟨i, transfers.mpr first', (grants _ _).mpr granted'⟩
        rw [ended] at pending
        cases pending

/-- A skip to a threshold that the last one went to, or a sooner one, does nothing. -/
theorem skip_again (skipped : t.skipUntil? a = some once) (sooner : b ≤ a) :
    once.skipUntil? b = some once :=
  skip_unmissed fun _ held => le_trans sooner (skip_reaches skipped held)

/-- Of two skips the one to the later threshold counts. -/
theorem Placed.skip_skip (placed : t.Placed) (measurable : t.Measurable a)
    (measurable' : t.Measurable b) (representable : t.Representable (max a b))
    {again whole : SimpleTimer} (skipped : t.skipUntil? a = some once)
    (skipped' : once.skipUntil? b = some again) (passed : t.skipUntil? (max a b) = some whole) :
    (Trigger.simpleTimer again).SameFiring (.simpleTimer whole) := by
  rcases le_total b a with sooner | later
  · rw [max_eq_left sooner, skipped] at passed
    rw [skip_again skipped sooner] at skipped'
    cases passed
    cases skipped'
    rfl
  rw [max_eq_right later] at representable passed
  by_cases unmissed : ∀ current, t.next? = some current → a ≤ current
  · rw [skip_unmissed unmissed] at skipped
    cases skipped
    cases passed.symm.trans skipped'
    rfl
  · obtain ⟨current, next, missed⟩ : ∃ current, t.next? = some current ∧ current < a := by
      simpa using unmissed
    exact placed.skip_further measurable measurable' representable later next missed skipped skipped'
      passed

end SimpleTimer

/-! ## Triggers -/

namespace Trigger

variable {t before once : Trigger} {calls : List Call} {taken : List Instant} {a b : Instant}

/-- Differences tell the threshold apart from what is a second later. Only triggers that repeat use them. -/
inductive Measurable (threshold : Instant) : Trigger → Prop
  | pointInTime (next? : Option Instant) : Measurable threshold (.pointInTime next?)
  | interval {t : Interval} (start : t.start.Valid) (plain : t.start.isLeap = false)
    (plain' : threshold.isLeap = false) : Measurable threshold (.interval t)
  | simpleTimer {t : SimpleTimer} (measurable : t.Measurable threshold) :
    Measurable threshold (.simpleTimer t)

/-- The occurrences of a simple timer up to the first one that remains lie in the range of instants. -/
def Representable (threshold : Instant) : Trigger → Prop
  | simpleTimer t => t.Representable threshold
  | _ => True

/-- With a start that shows as a local time, missed firings can be passed over. -/
theorem Settled.skip_answers (settled : t.Settled) (shows : t.startShows = true) (threshold : Instant) :
    ∃ once, t.skipUntil? threshold = some once ∧ once.Settled ∧ once.startShows = true := by
  cases settled with
  | pointInTime next? => exact ⟨_, rfl, .pointInTime _, rfl⟩
  | repeating placed =>
    obtain ⟨once, skipped⟩ := placed.skip_answers shows threshold
    exact ⟨once, skipped, .repeating (placed.skip skipped).1,
      (startShows_of_plan (skip_plan skipped)).trans shows⟩

/-- Of two skips the one to the later threshold counts. -/
theorem Settled.skip_skip (settled : t.Settled) (shows : t.startShows = true)
    (measurable : t.Measurable a) (measurable' : t.Measurable b)
    (representable : t.Representable (max a b)) :
    ∃ again whole, t.skipTwice? a b = some again ∧ t.skipUntil? (max a b) = some whole ∧
      again.SameFiring whole := by
  obtain ⟨once, skipped, settled', shows'⟩ := settled.skip_answers shows a
  obtain ⟨again, skipped', _⟩ := settled'.skip_answers shows' b
  obtain ⟨whole, passed, _⟩ := settled.skip_answers shows (max a b)
  refine ⟨again, whole, by rw [skipTwice?, skipped]; exact skipped', passed, ?_⟩
  cases settled with
  | pointInTime next? =>
    cases skipped
    cases skipped'
    cases passed
    have same : (next?.filter (a ≤ ·)).filter (b ≤ ·) = next?.filter (max a b ≤ ·) := by
      rw [Option.filter_filter]
      simp only [max_le_iff, Bool.decide_and]
    rw [same]
  | repeating placed =>
    cases placed with
    | interval placed =>
      obtain ⟨once, sooner, rfl⟩ := skip_interval skipped
      obtain ⟨again, later, rfl⟩ := skip_interval skipped'
      obtain ⟨whole, atOnce, rfl⟩ := skip_interval passed
      cases measurable with
      | interval start plain plain_a =>
        cases measurable' with
        | interval _ _ plain_b =>
          exact placed.skip_skip start plain plain_a plain_b sooner later atOnce
    | simpleTimer placed =>
      obtain ⟨once, sooner, rfl⟩ := skip_timer skipped
      obtain ⟨again, later, rfl⟩ := skip_timer skipped'
      obtain ⟨whole, atOnce, rfl⟩ := skip_timer passed
      cases measurable with
      | simpleTimer measurable =>
        cases measurable' with
        | simpleTimer measurable' =>
          exact placed.skip_skip measurable measurable' representable sooner later atOnce

/-- A skip that was made is not made again. -/
theorem Settled.skip_idem (settled : t.Settled) {threshold : Instant}
    (skipped : t.skipUntil? threshold = some once) : once.skipUntil? threshold = some once := by
  cases settled with
  | pointInTime next? =>
    cases skipped
    simp [skipUntil?, Option.filter_filter]
  | repeating placed =>
    cases placed with
    | interval placed =>
      obtain ⟨once, passed, rfl⟩ := skip_interval skipped
      have again := placed.skip_again passed (le_refl threshold) fun _ _ _ => Int.le_refl _
      simp [skipUntil?, again]
    | simpleTimer placed =>
      obtain ⟨once, passed, rfl⟩ := skip_timer skipped
      simp [skipUntil?, SimpleTimer.skip_again passed (le_refl threshold)]

/-- However far a trigger has come, two skips, in either order, lead to the firing that one skip to the
later threshold leads to, under the same index, if the start shows as a local time wherever days are counted.
A skip to the same threshold as the last one that had an answer does nothing. The zones are those of
`Zone.Table` and have `Zone.steady`. -/
theorem skips_compose (fresh : t.Fresh) (ran : t.run calls = some (taken, before))
    (measurable : before.Measurable a) (measurable' : before.Measurable b)
    (representable : before.Representable (max a b)) :
    (before.startShows = true → ∃ forth back whole, before.skipTwice? a b = some forth ∧
      before.skipTwice? b a = some back ∧ before.skipUntil? (max a b) = some whole ∧
      forth.SameFiring whole ∧ back.SameFiring whole) ∧
    ∀ threshold once, before.skipUntil? threshold = some once →
      once.skipUntil? threshold = some once := by
  have settled := fresh.settled ran
  refine ⟨?_, fun _ _ skipped => settled.skip_idem skipped⟩
  intro shows
  obtain ⟨forth, whole, skipped, passed, same⟩ :=
    settled.skip_skip shows measurable measurable' representable
  rw [max_comm] at representable
  obtain ⟨back, _, skipped', passed', same'⟩ :=
    settled.skip_skip shows measurable' measurable representable
  rw [max_comm, passed] at passed'
  cases passed'
  exact ⟨forth, back, whole, skipped, skipped', passed, same, same'⟩

/-- Half past the third second, then a microsecond after the fifth: what is left is the sixth firing, as
after one skip, to which that microsecond is too little for passing it over. -/
theorem skips_compose_every_second :
    ∃ forth back whole, everySecond.skipTwice? ⟨3, 500000000⟩ ⟨5, 1000⟩ = some forth ∧
      everySecond.skipTwice? ⟨5, 1000⟩ ⟨3, 500000000⟩ = some back ∧
      everySecond.skipUntil? ⟨5, 1000⟩ = some whole ∧ forth.SameFiring whole ∧ back.SameFiring whole := by
  have made : newInterval ⟨0, 0⟩ none 0 1000 = .ok everySecond := rfl
  have fresh : everySecond.Fresh := .repeating (.interval made (by decide))
  have start : Instant.Valid ⟨0, 0⟩ := ⟨by decide, by decide⟩
  exact (skips_compose fresh (rfl : everySecond.run [] = _) (a := ⟨3, 500000000⟩) (b := ⟨5, 1000⟩)
    (.interval start (by decide) (by decide)) (.interval start (by decide) (by decide)) trivial).1 rfl

/-- Within leap seconds two skips lead past the firing that one skip leads to: for a threshold there, of an
interval and of a simple timer, and for an interval that starts there. -/
theorem skips_part_at_leap_seconds :
    (∃ t, newInterval ⟨0, 0⟩ none 0 100 = .ok t ∧
      (t.skipTwice? ⟨59, 1500000000⟩ ⟨60, 0⟩).map (fun u => (u.index, u.next?)) =
        some (605, some ⟨60, 500000000⟩) ∧
      (t.skipUntil? (max ⟨59, 1500000000⟩ ⟨60, 0⟩)).map (fun u => (u.index, u.next?)) =
        some (600, some ⟨60, 0⟩)) ∧
    (∃ t, newSimpleTimer ⟨59, 0⟩ 100 .millis (-1) none "UTC" = .ok t ∧
      (t.skipTwice? ⟨59, 1300000000⟩ ⟨60, 0⟩).map (fun u => (u.index, u.next?)) =
        some (12, some ⟨60, 200000000⟩) ∧
      (t.skipUntil? (max ⟨59, 1300000000⟩ ⟨60, 0⟩)).map (fun u => (u.index, u.next?)) =
        some (10, some ⟨60, 0⟩)) ∧
    (∃ t, newInterval ⟨59, 1500000000⟩ none 0 100 = .ok t ∧
      (t.skipTwice? ⟨431999, 900000000⟩ ⟨432000, 0⟩).map (fun u => (u.index, u.next?)) =
        some (4319404, some ⟨431999, 900000000⟩) ∧
      (t.skipUntil? (max ⟨431999, 900000000⟩ ⟨432000, 0⟩)).map (fun u => (u.index, u.next?)) =
        some (4319395, some ⟨431999, 0⟩)) := by
  refine ⟨⟨_, rfl, ?_, ?_⟩, ⟨_, rfl, ?_, ?_⟩, ⟨_, rfl, ?_, ?_⟩⟩ <;> decide

end Trigger

end Punctual
