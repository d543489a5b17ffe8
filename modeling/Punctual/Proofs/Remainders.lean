import Punctual.Proofs.TimerSkips

/-!
What is left of a trigger. Taking one firing after another delivers the rest of a trigger's firings.
Passing over those before a threshold may leave nothing pending; then none of the rest was at or after
the threshold, and so none is lost.
-/
namespace Punctual

/-- Taking one firing after another takes one at this instant. -/
inductive Trigger.Delivers : Trigger → Instant → Prop
  | now {t rest : Trigger} {instant : Instant} (advances : t.advance? = some (some instant, rest)) :
    Delivers t instant
  | later {t rest : Trigger} {taken? : Option Instant} {instant : Instant}
    (advances : t.advance? = some (taken?, rest)) (delivers : Delivers rest instant) : Delivers t instant

/-- What has nothing pending delivers nothing. -/
theorem Trigger.Placed.pending_of_delivers {t : Trigger} {instant : Instant} (placed : t.Placed)
    (delivers : t.Delivers instant) : t.next?.isSome := by
  induction delivers with
  | now advances =>
    rw [← (placed.take advances).1]
    rfl
  | @later t rest taken? instant advances _ ih =>
    cases next : t.next? with
    | some current => rfl
    | none =>
      rw [placed.take_none next] at advances
      cases advances
      rw [← next]
      exact ih placed

/-! ## Intervals -/

namespace Interval

variable {t after : Interval} {instant threshold : Instant} {k : Int}

/-- Whole milliseconds of a length that is at most a second below zero. -/
theorem tdiv_milli_bounds {length bound : Int} (early : -1000 * (nanosPerMilli : Int) ≤ length)
    (late : length ≤ bound * nanosPerMilli) :
    -1000 ≤ length.tdiv nanosPerMilli ∧ length.tdiv nanosPerMilli ≤ bound := by
  simp only [nanosPerMilli] at early late ⊢
  rcases Int.le_total 0 length with ahead | behind
  · rw [Int.tdiv_eq_ediv_of_nonneg ahead]
    omega
  · have negated := Int.neg_tdiv (-length) (1000000 : Nat)
    have quotient := Int.tdiv_eq_ediv_of_nonneg (a := -length) (b := (1000000 : Nat)) (by omega)
    rw [Int.neg_neg, quotient] at negated
    omega

/-- From a start within a leap second, too, skipping never goes past an occurrence that is not before
the threshold: the occurrences count that second only until they leave it. -/
theorem Placed.indexAt_le_leap (placed : t.Placed) (leap : t.start.isLeap = true)
    (plain : threshold.isLeap = false) (begun : t.start ≤ threshold) (forward : 0 ≤ k)
    (bounded : k ≤ maxInt32) (occurs : t.occurrence? k = some instant) (reached : threshold ≤ instant) :
    t.indexAt threshold ≤ k := by
  obtain ⟨_, _, moved⟩ := occurrence_eq_some.mp occurs
  obtain ⟨rfl, _⟩ := Instant.shift?_eq_some moved
  have positive := placed.period
  have nano := Instant.isLeap_eq_false.mp plain
  have within : nanosPerSecond ≤ t.start.nano := by simpa [Instant.isLeap] using leap
  have later : t.start.second < threshold.second := by
    rw [Instant.le_def] at begun
    omega
  have product : 0 ≤ t.periodMs * k := Int.mul_nonneg (Int.le_of_lt positive) forward
  have since : threshold.since t.start ≤ t.periodMs * k * nanosPerMilli := by
    rcases Instant.shift_leap leap (placed.offset_nonneg forward) with left | ⟨_, stays⟩
    · rw [← offset, left, Instant.le_iff_toNanos plain (Instant.ofNanos_plain _),
        Instant.toNanos_ofNanos] at reached
      have counted := Instant.since_le threshold t.start
      rw [Instant.leapNanos, if_pos leap] at counted
      rw [← offset]
      omega
    · rw [← offset, stays, Instant.le_def] at reached
      dsimp only at reached
      omega
  have early : -1000 * (nanosPerMilli : Int) ≤ threshold.since t.start := by
    have counted := Instant.le_since threshold t.start
    rw [Instant.leapNanos, plain] at counted
    have valid := placed.valid
    simp only [Instant.toNanos, nanosPerSecond, nanosPerMilli, Bool.false_eq_true, ↓reduceIte]
      at counted valid later ⊢
    omega
  have elapsed := tdiv_milli_bounds early since
  refine toInt32_getD_le_of_le ?_ (ceil_le positive elapsed.2) bounded
  have quotient : -1000 ≤ (threshold.since t.start).tdiv nanosPerMilli / t.periodMs := by
    rw [Int.le_ediv_iff_mul_le positive]
    omega
  have least : minInt32 ≤ -1000 := by decide
  split <;> omega

/-- If skipping leaves nothing pending, nothing was left to be taken at or after the threshold. -/
theorem Placed.delivers_lt (placed : t.Placed) (within : t.start.inRange = true)
    (plain : threshold.isLeap = false) (skipped : t.skipUntil? threshold = some after)
    (ended : after.next? = none) (delivers : t.Delivers k instant) : instant < threshold := by
  by_contra! reached
  obtain ⟨ahead, onward, bounded, pending⟩ := delivers.pending placed within
  obtain ⟨current, next⟩ := Option.isSome_iff_exists.mp ahead
  by_cases missed : current < threshold
  · rw [placed.skip_missed next missed] at skipped
    cases skipped
    have begun : t.start ≤ threshold := le_trans (placed.start_le next) (le_of_lt missed)
    have occurs := (pending_some pending).2.1
    have forward := placed.bounded.1
    have index : t.indexAt threshold ≤ k := by
      cases leap : t.start.isLeap with
      | false => exact placed.indexAt_le leap plain begun bounded occurs reached
      | true => exact placed.indexAt_le_leap leap plain begun (by omega) bounded occurs reached
    obtain ⟨_, still⟩ := placed.pending_of_le within (by omega : 0 ≤ max (t.indexAt threshold) t.count)
      (Int.max_le.mpr ⟨index, onward⟩) pending
    cases ended.symm.trans still
  · rw [skip_unmissed (by simpa [next] using missed)] at skipped
    cases skipped
    cases ended.symm.trans next

theorem delivers_of_trigger (delivers : (Trigger.interval t).Delivers instant) :
    ∃ k, t.Delivers k instant := by
  generalize same : Trigger.interval t = trigger at delivers
  induction delivers generalizing t with
  | now advances =>
    subst same
    obtain ⟨taken, _⟩ := Prod.mk.inj (Option.some_inj.mp advances)
    exact ⟨t.count, .now taken⟩
  | later advances _ ih =>
    subst same
    obtain ⟨_, same⟩ := Prod.mk.inj (Option.some_inj.mp advances)
    obtain ⟨k, delivers⟩ := ih same
    exact ⟨k, .later delivers⟩

end Interval

/-! ## Simple timers -/

namespace SimpleTimer

variable {t after : SimpleTimer} {current instant threshold : Instant} {taken? : Option Instant}

/-- Something remains at or after the threshold: a first occurrence, which is granted, and which no index
without an occurrence comes before. -/
structure Remains (t : SimpleTimer) (threshold : Instant) (i : Int) (instant : Instant) : Prop where
  first : t.FirstAt threshold i instant
  granted : t.Grants i instant
  unbroken : ∀ j, t.index ≤ j → j < i → ∃ earlier, t.occurrence? j = some (some earlier)

theorem Placed.advance_nonzero (placed : t.Placed) (next : t.next? = some current)
    (advances : t.advance? = some (taken?, after)) : after.index ≠ 0 := by
  have forward := placed.bounded.1
  obtain ⟨_, next?, _, rfl⟩ := placed.advance_awaits next advances
  simp only [SimpleTimer.awaiting, nextInt32, maxInt32]
  omega

/-- What remains after a missed firing was taken remained before. -/
theorem Placed.remains_of_advance (placed : t.Placed) (next : t.next? = some current)
    (missed : current < threshold) (advances : t.advance? = some (taken?, after))
    (occurs : ∃ earlier, t.occurrence? t.index = some (some earlier)) {i : Int}
    (remains : after.Remains threshold i instant) : t.Remains threshold i instant := by
  have first := (placed.firstAt_advance next missed advances).mp remains.first
  obtain ⟨_, next?, _, rfl⟩ := placed.advance_awaits next advances
  refine ⟨first, ⟨remains.granted.counted, remains.granted.inTime⟩, fun j onward before => ?_⟩
  by_cases here : j = t.index
  · exact here ▸ occurs
  · have bounded := first.bounded
    exact remains.unbroken j (by simp only [SimpleTimer.awaiting, nextInt32]; omega) before

/-- A firing that is pending under an index other than the first one remains. -/
theorem Placed.remains_pending (placed : t.Placed) (nonzero : t.index ≠ 0)
    (next : t.next? = some current) (reached : threshold ≤ current) :
    t.Remains threshold t.index current where
  first := ⟨Int.le_refl _, placed.bounded.2, placed.later current next nonzero, reached, by omega⟩
  granted := placed.grants next
  unbroken := by omega

/-- If a firing at or after the threshold is yet to be delivered, something remains. -/
theorem Placed.remains_of_delivers (placed : t.Placed) (nonzero : t.index ≠ 0)
    (delivers : (Trigger.simpleTimer t).Delivers instant) (reached : threshold ≤ instant) :
    ∃ i first, t.Remains threshold i first := by
  generalize same : Trigger.simpleTimer t = trigger at delivers
  induction delivers generalizing t with
  | now advances =>
    subst same
    have next := ((Trigger.Placed.simpleTimer placed).take advances).1.symm
    exact ⟨_, _, placed.remains_pending nonzero next reached⟩
  | later advances _ ih =>
    subst same
    obtain ⟨rest, moved, rfl⟩ := Trigger.advance_timer advances
    cases next : t.next? with
    | none =>
      cases (advance_none next).symm.trans moved
      exact ih placed nonzero reached rfl
    | some current =>
      by_cases missed : current < threshold
      · obtain ⟨i, first, remains⟩ :=
          ih (placed.advanced moved) (placed.advance_nonzero next moved) reached rfl
        exact ⟨i, first,
          placed.remains_of_advance next missed moved ⟨_, placed.later current next nonzero⟩ remains⟩
      · exact ⟨_, _, placed.remains_pending nonzero next (not_lt.mp missed)⟩

/-- If skipping leaves nothing pending, nothing was left to be taken at or after the threshold, provided
that the firing that was pending is an occurrence in the range of instants. -/
theorem Placed.delivers_lt (placed : t.Placed) (measurable : t.Measurable threshold)
    (occurs : ∀ current, t.next? = some current → current < threshold →
      ∃ earlier, t.occurrence? t.index = some (some earlier))
    (skipped : t.skipUntil? threshold = some after) (ended : after.next? = none)
    (delivers : (Trigger.simpleTimer t).Delivers instant) : instant < threshold := by
  by_contra! reached
  have pending := (Trigger.Placed.simpleTimer placed).pending_of_delivers delivers
  obtain ⟨current, next⟩ := Option.isSome_iff_exists.mp pending
  have next : t.next? = some current := next
  by_cases missed : current < threshold
  · have occurs := occurs current next missed
    obtain ⟨i, first, remains⟩ : ∃ i first, t.Remains threshold i first := by
      cases delivers with
      | now advances =>
        have same := ((Trigger.Placed.simpleTimer placed).take advances).1.symm
        cases next.symm.trans same
        exact absurd missed (not_lt.mpr reached)
      | later advances delivers =>
        obtain ⟨rest, moved, rfl⟩ := Trigger.advance_timer advances
        obtain ⟨i, first, remains⟩ := (placed.advanced moved).remains_of_delivers
          (placed.advance_nonzero next moved) delivers reached
        exact ⟨i, first, placed.remains_of_advance next missed moved occurs remains⟩
    have representable : t.Representable threshold := by
      intro j other first' j' onward before
      obtain ⟨rfl, _⟩ := first'.unique remains.first
      exact remains.unbroken j' onward before
    have held := (placed.next_skip_iff measurable representable next missed skipped).mpr
      ⟨i, remains.first, remains.granted⟩
    cases ended.symm.trans held
  · rw [skip_unmissed (by simpa [next] using missed)] at skipped
    cases skipped
    cases ended.symm.trans next

/-- Where days are counted from a start without a local time, there is no occurrence. -/
theorem startShows_of_occurs {k : Int} (occurs : t.occurrence? k = some (some instant)) :
    t.startShows = true := by
  unfold startShows
  by_cases days : t.unit = .days
  · obtain ⟨zone, known, found⟩ := occurrence_days days occurs
    simp [days, known, (daysAfterStart_some found).1]
  · simp [days]

end SimpleTimer

/-! ## Triggers -/

namespace Trigger

variable {t after : Trigger} {instant threshold now : Instant}

/-- From where the firings of a trigger that repeats are counted. -/
def start? : Trigger → Option Instant
  | pointInTime _ => none
  | interval t => some t.start
  | simpleTimer t => some t.start

/-- A trigger that was made, and of which firings have been taken and passed over since. -/
def Reachable (t : Trigger) : Prop :=
  ∃ (made : Trigger) (calls : List Call) (taken : List Instant), made.Fresh ∧
    (∀ first, made.next? = some first → first.Valid) ∧ made.run calls = some (taken, t)

/-- A firing of a simple timer that is pending and was to come before an instant is an occurrence in the
range of instants. -/
def RepresentableUpTo (t : Trigger) (now : Instant) : Prop :=
  ∀ timer current, t = .simpleTimer timer → timer.next? = some current → current < now →
    ∃ instant, timer.occurrence? timer.index = some (some instant)

/-- What fires once delivers what is pending. -/
theorem next_of_delivers {next? : Option Instant} (delivers : (pointInTime next?).Delivers instant) :
    next? = some instant := by
  generalize same : pointInTime next? = trigger at delivers
  induction delivers generalizing next? with
  | now advances =>
    subst same
    cases advances
    rfl
  | later advances _ ih =>
    subst same
    cases advances
    cases ih rfl

theorem Made.next_start (made : t.Made) : t.next? = t.start? := by
  obtain ⟨placed, zero, pending⟩ := made.placed
  obtain ⟨current, next⟩ := Option.isSome_iff_exists.mp pending
  rw [next]
  cases placed with
  | interval placed => exact congrArg some (placed.first current next zero)
  | simpleTimer placed => exact congrArg some (placed.first current next zero)

theorem Fresh.reachable (fresh : t.Fresh) (next : t.next? = some instant) (valid : instant.Valid) :
    t.Reachable := by
  refine ⟨t, [], [], fresh, fun first same => ?_, rfl⟩
  cases next.symm.trans same
  exact valid

theorem Reachable.settled (reachable : t.Reachable) : t.Settled := by
  obtain ⟨made, calls, taken, fresh, valid, ran⟩ := reachable
  exact fresh.settled ran

theorem Reachable.start_valid (reachable : t.Reachable) {start : Instant}
    (starts : t.start? = some start) : start.Valid := by
  obtain ⟨made, calls, taken, fresh, valid, ran⟩ := reachable
  have planned : ∀ t : Trigger, t.plan.start? = t.start? := by
    intro t
    cases t <;> rfl
  rw [← planned, run_plan ran, planned] at starts
  cases fresh with
  | pointInTime instant => cases starts
  | repeating new => exact valid start (new.next_start.trans starts)

/-- The firing that comes next lies in the range of instants. -/
theorem Reachable.next_valid (reachable : t.Reachable) (next : t.next? = some instant) :
    instant.Valid := by
  have started := @reachable.start_valid
  obtain ⟨made, calls, taken, fresh, valid, ran⟩ := reachable
  cases fresh with
  | pointInTime first =>
    obtain ⟨_, left?, ran', same⟩ := run_pointInTime (some first) calls
    cases ran.symm.trans ran'
    exact valid instant (same instant next)
  | repeating new =>
    cases new.placed.1.run_placed ran with
    | interval placed =>
      have occurs := (Interval.pending_some (placed.pending_count (started rfl).inRange next)).2.1
      exact Instant.shift_valid (Interval.occurrence_eq_some.mp occurs).2.2
    | @simpleTimer timer placed =>
      by_cases zero : timer.index = 0
      · rw [placed.first instant next zero]
        exact started rfl
      · exact SimpleTimer.occurrence_valid (started rfl).nano (placed.later instant next zero)

/-- Missed firings of a trigger that was made can be passed over, if its occurrences can be told. -/
theorem Reachable.skip_answers (reachable : t.Reachable) (representable : t.RepresentableUpTo now)
    (sooner : threshold ≤ now) : ∃ after, t.skipUntil? threshold = some after := by
  cases reachable.settled with
  | pointInTime next? => exact ⟨_, rfl⟩
  | repeating placed =>
    cases placed with
    | interval placed => exact Placed.skip_answers (.interval placed) rfl threshold
    | @simpleTimer timer placed =>
      by_cases unmissed : ∀ current, timer.next? = some current → threshold ≤ current
      · exact ⟨.simpleTimer timer, by rw [skipUntil?, SimpleTimer.skip_unmissed unmissed]; rfl⟩
      · obtain ⟨current, next, missed⟩ : ∃ current, timer.next? = some current ∧ current < threshold := by
          simpa using unmissed
        obtain ⟨_, occurs⟩ := representable timer current rfl next (lt_of_lt_of_le missed sooner)
        exact Placed.skip_answers (.simpleTimer placed) (SimpleTimer.startShows_of_occurs occurs) threshold

/-- If passing over missed firings leaves nothing pending, nothing was left to be taken from the
threshold on. -/
theorem Reachable.delivers_lt (reachable : t.Reachable) (representable : t.RepresentableUpTo now)
    (sooner : threshold ≤ now) (valid : threshold.Valid) (plain : threshold.isLeap = false)
    (skipped : t.skipUntil? threshold = some after) (ended : after.next? = none)
    (delivers : t.Delivers instant) : instant < threshold := by
  cases reachable.settled with
  | pointInTime next? =>
    cases skipped
    have pending := next_of_delivers delivers
    subst pending
    simpa [next?, Option.filter] using ended
  | repeating placed =>
    cases placed with
    | interval placed =>
      obtain ⟨left, passed, rfl⟩ := Option.map_eq_some_iff.mp skipped
      obtain ⟨k, delivers⟩ := Interval.delivers_of_trigger delivers
      exact placed.delivers_lt (reachable.start_valid rfl).inRange plain passed ended delivers
    | @simpleTimer timer placed =>
      obtain ⟨left, passed, rfl⟩ := skip_timer skipped
      refine placed.delivers_lt ⟨reachable.start_valid rfl, valid, .inl plain⟩ ?_ passed ended delivers
      intro current next missed
      exact representable timer current rfl next (lt_of_lt_of_le missed sooner)

end Trigger

end Punctual
