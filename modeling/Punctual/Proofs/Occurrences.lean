import Punctual.Proofs.Instants
import Punctual.Proofs.Zones
import Punctual.Trigger

/-!
Occurrences. A trigger that repeats knows the firing that comes next and its index. However firings are
taken and passed over, that firing is the start if its index is zero and else the occurrence with its
index, comes before the last instant, and is one that the number of firings allows. So no more firings
are taken than are allowed; and if none are passed over, exactly as many.
-/
namespace Punctual

theorem toInt64_zero : toInt64? 0 = some 0 := by decide

theorem toInt32_getD_le (n : Int) : (toInt32? n).getD maxInt32 ≤ maxInt32 := by
  unfold toInt32?
  split
  · rename_i fits
    exact fits.2
  · exact Int.le_refl _

/-! ## Intervals -/

namespace Interval

variable {t : Interval} {instant threshold current : Instant} {k : Int}

/-- The firing that comes next has its place in the sequence. -/
structure Placed (t : Interval) : Prop where
  first : ∀ instant, t.next? = some instant → t.count = 0 → instant = t.start
  later : ∀ instant, t.next? = some instant → t.count ≠ 0 → t.occurrence? t.count = some instant
  inTime : ∀ instant, t.next? = some instant → t.isPastStop instant = false
  allowed : ∀ instant, t.next? = some instant → 0 < t.limit → t.count < t.limit
  bounded : 0 ≤ t.count ∧ t.count ≤ maxInt32
  period : 0 < t.periodMs
  valid : t.start.nano < 2 * nanosPerSecond

theorem occurrence_zero (valid : t.start.nano < 2 * nanosPerSecond)
    (occurs : t.occurrence? 0 = some instant) : instant = t.start := by
  rw [occurrence?, Int.mul_zero, toInt64_zero] at occurs
  have moved : t.start.shift? 0 = some instant := by simpa [minInt64] using occurs
  rw [(Instant.shift?_eq_some moved).1, Instant.shift_zero valid]

theorem pending_some (pending : t.pending? k = some instant) :
    t.isLimitReached k = false ∧ t.occurrence? k = some instant ∧ t.isPastStop instant = false := by
  unfold pending? at pending
  split at pending
  · cases pending
  · rename_i granted
    obtain ⟨occurs, inTime⟩ := Option.filter_eq_some_iff.mp pending
    exact ⟨by simpa using granted, occurs, by simpa using inTime⟩

/-- Whatever index the trigger goes on to, the firing that comes next is placed. -/
theorem Placed.moved (placed : t.Placed) (forward : 0 ≤ k) (bounded : k ≤ maxInt32) :
    Placed { t with count := k, next? := t.pending? k } where
  first instant pending zero := by
    have zero : k = 0 := zero
    subst zero
    exact occurrence_zero placed.valid (pending_some pending).2.1
  later instant pending _ := (pending_some pending).2.1
  inTime instant pending := (pending_some pending).2.2
  allowed instant pending limited := by
    have granted := (pending_some pending).1
    simp only [isLimitReached, Bool.and_eq_false_iff, decide_eq_false_iff_not] at granted
    change k < t.limit
    change 0 < t.limit at limited
    omega
  bounded := ⟨forward, bounded⟩
  period := placed.period
  valid := placed.valid

theorem Placed.advance_eq (placed : t.Placed) (next : t.next? = some current) :
    t.advance = (some current, { t with
      count := nextInt32 t.count, next? := t.pending? (nextInt32 t.count) }) := by
  have granted : t.isLimitReached t.count = false := by
    have allowed := placed.allowed current next
    simp only [isLimitReached, Bool.and_eq_false_iff, decide_eq_false_iff_not]
    omega
  simp [advance, next, granted, placed.inTime current next]

theorem advance_none (ended : t.next? = none) : t.advance = (none, t) := by simp [advance, ended]

/-- Without a last instant the next occurrence follows, unless the limit is reached. -/
theorem Placed.next_advance (placed : t.Placed) (next : t.next? = some current)
    (unstopped : t.stop? = none) (limited : 0 < t.limit) (small : t.limit ≤ maxInt32)
    (occurs : t.count + 1 < t.limit → (t.occurrence? (t.count + 1)).isSome) :
    t.advance.2.next?.isSome ↔ t.count + 1 < t.limit := by
  have allowed := placed.allowed current next limited
  have counted : nextInt32 t.count = t.count + 1 := by
    simp only [nextInt32]
    omega
  have unpassed : ∀ instant, t.isPastStop instant = false := by simp [isPastStop, unstopped]
  rw [placed.advance_eq next, counted]
  by_cases more : t.count + 1 < t.limit
  · have granted : ¬ t.limit ≤ t.count + 1 := by omega
    simp [pending?, isLimitReached, granted, unpassed, more, occurs more]
  · have reached : t.limit ≤ t.count + 1 := by omega
    simp [pending?, isLimitReached, limited, reached, more]

/-- Passing over firings leaves the trigger as it is or goes on to a later index. -/
theorem Placed.skip_cases (placed : t.Placed) (threshold : Instant) :
    t.skipUntil? threshold = some t ∨ t.next?.isSome ∧ ∃ k, t.count ≤ k ∧ k ≤ maxInt32 ∧
      t.skipUntil? threshold = some { t with count := k, next? := t.pending? k } := by
  cases next : t.next? with
  | none => exact .inl (by simp [skipUntil?, next])
  | some current =>
    by_cases reached : threshold ≤ current
    · exact .inl (by simp [skipUntil?, next, reached])
    · have period := placed.period
      have nonzero : ¬ t.periodMs = 0 := by omega
      refine .inr ⟨rfl, max (t.indexAt threshold) t.count, Int.le_max_right .., ?_, ?_⟩
      · exact Int.max_le.mpr ⟨toInt32_getD_le _, placed.bounded.2⟩
      · simp [skipUntil?, next, reached, nonzero]

end Interval

/-! ## Simple timers -/

namespace SimpleTimer

variable {t after : SimpleTimer} {instant threshold current : Instant} {k : Int}

/-- The firing that comes next has its place in the sequence. -/
structure Placed (t : SimpleTimer) : Prop where
  first : ∀ instant, t.next? = some instant → t.index = 0 → instant = t.start
  later : ∀ instant, t.next? = some instant → t.index ≠ 0 → t.occurrence? t.index = some (some instant)
  inTime : ∀ instant, t.next? = some instant → t.isPastStop instant = false
  allowed : ∀ instant, t.next? = some instant → 0 ≤ t.repetitions → t.index ≤ t.repetitions
  bounded : 0 ≤ t.index ∧ t.index ≤ maxInt32
  period : 0 < t.period
  valid : t.start.nano < 2 * nanosPerSecond

/-- No day after the start, at its local time, it is no later than at the start: on a day on which clocks
are put back, that local time may have been shown before. -/
theorem daysAfterStart_zero {zone : Zone} (occurs : t.daysAfterStart? zone 0 = some (some instant)) :
    instant ≤ t.start := by
  obtain ⟨first, shown, bound⟩ := zone.first_showing t.start
  unfold daysAfterStart? at occurs
  dsimp only at occurs
  split at occurs
  · cases occurs
  rw [if_neg (by decide), Option.some_inj] at occurs
  obtain ⟨local', moved, resolved⟩ := Option.bind_eq_some_iff.mp occurs
  have same : local' = zone.toLocal t.start := by
    simp only [Zone.daysLater?, Int.toNat_zero, Int.natCast_zero, Int.zero_mul, Int.add_zero] at moved
    split at moved <;> cases moved
    rfl
  simp only [Zone.instantOf?, same, shown] at resolved
  split at resolved <;> cases resolved
  simp only [Zone.toLocal, Instant.le_def]
  omega

/-- The first occurrence comes no later than the start. -/
theorem occurrence_zero (valid : t.start.nano < 2 * nanosPerSecond)
    (occurs : t.occurrence? 0 = some (some instant)) : instant ≤ t.start := by
  simp only [occurrence?, Int.mul_zero, toInt64_zero] at occurs
  split at occurs
  · split at occurs
    · cases occurs
    · exact daysAfterStart_zero occurs
  · have offset : t.unit.toMillis? 0 = some 0 := by simp [TimeUnit.toMillis?, toInt64_zero]
    have moved : t.start.shift? 0 = some instant := by
      simpa [unitsAfterStart?, offset, minInt64] using occurs
    rw [(Instant.shift?_eq_some moved).1, Instant.shift_zero valid]

/-- A start that shows as a local time gives every occurrence an answer. -/
theorem occurrence_answers (shows : t.startShows = true) (k : Int) :
    ∃ instant?, t.occurrence? k = some instant? := by
  unfold occurrence?
  split
  · exact ⟨none, rfl⟩
  split
  · rename_i days
    split
    · exact ⟨none, rfl⟩
    · rename_i zone known
      have within : (!(zone.toLocal t.start).reading.inRange) = false := by
        simpa [startShows, days, known] using shows
      unfold daysAfterStart?
      simp only [within, Bool.false_eq_true, ↓reduceIte]
      split
      · exact ⟨_, rfl⟩
      · exact ⟨_, rfl⟩
  · exact ⟨_, rfl⟩

theorem following_answers (shows : t.startShows = true) (k : Int) :
    ∃ instant?, t.following? k = some instant? := by
  unfold following?
  split
  · exact ⟨none, rfl⟩
  · exact occurrence_answers shows k

theorem following_some (follows : t.following? k = some (some instant)) :
    t.isExhausted k = false ∧ t.occurrence? k = some (some instant) := by
  unfold following? at follows
  split at follows
  · cases follows
  · rename_i granted
    exact ⟨by simpa using granted, follows⟩

/-- A timer awaits a firing that is placed, whatever its index. -/
theorem Placed.awaiting (placed : t.Placed) {next? : Option Instant} (forward : 0 ≤ k)
    (bounded : k ≤ maxInt32) (nonzero : ∀ instant, next? = some instant → k ≠ 0)
    (follows : ∀ instant, next? = some instant →
      t.isExhausted k = false ∧ t.occurrence? k = some (some instant)) :
    (t.awaiting k next?).Placed where
  first instant pending zero := absurd zero (nonzero instant (Option.filter_eq_some_iff.mp pending).1)
  later instant pending _ := (follows instant (Option.filter_eq_some_iff.mp pending).1).2
  inTime instant pending := by
    change t.isPastStop instant = false
    simpa using (Option.filter_eq_some_iff.mp pending).2
  allowed instant pending limited := by
    have granted := (follows instant (Option.filter_eq_some_iff.mp pending).1).1
    simp only [isExhausted, Bool.and_eq_false_iff, decide_eq_false_iff_not] at granted
    change k ≤ t.repetitions
    change 0 ≤ t.repetitions at limited
    omega
  bounded := ⟨forward, bounded⟩
  period := placed.period
  valid := placed.valid

theorem Placed.advance_eq (placed : t.Placed) (next : t.next? = some current) :
    t.advance? = (t.following? (nextInt32 t.index)).map fun next? =>
      (some current, t.awaiting (nextInt32 t.index) next?) := by
  simp [advance?, next, placed.inTime current next]

/-- A firing that is taken was pending, and what may follow it is awaited. -/
theorem Placed.advance_awaits (placed : t.Placed) (next : t.next? = some current) {taken? : Option Instant}
    (advances : t.advance? = some (taken?, after)) :
    taken? = some current ∧ ∃ next?, t.following? (nextInt32 t.index) = some next? ∧
      after = t.awaiting (nextInt32 t.index) next? := by
  rw [placed.advance_eq next] at advances
  obtain ⟨next?, follows, same⟩ := Option.map_eq_some_iff.mp advances
  cases same
  exact ⟨rfl, next?, follows, rfl⟩

theorem advance_none (ended : t.next? = none) : t.advance? = some (none, t) := by
  simp [advance?, ended]

theorem advance_answers (shows : t.startShows = true) :
    ∃ taken? after, t.advance? = some (taken?, after) := by
  unfold advance?
  split
  · exact ⟨_, _, rfl⟩
  split
  · exact ⟨_, _, rfl⟩
  · obtain ⟨next?, follows⟩ := following_answers shows (nextInt32 t.index)
    exact ⟨_, _, congrArg (Option.map _) follows⟩

/-- Without a last instant the next occurrence follows, unless the repetitions are used up. -/
theorem Placed.next_advance (placed : t.Placed) (next : t.next? = some current)
    (unstopped : t.stop? = none) (limited : 0 ≤ t.repetitions) (small : t.repetitions < maxInt32)
    (occurs : t.index + 1 ≤ t.repetitions → ∃ instant, t.occurrence? (t.index + 1) = some (some instant))
    {taken? : Option Instant} (advances : t.advance? = some (taken?, after)) :
    after.next?.isSome ↔ t.index + 1 ≤ t.repetitions := by
  have allowed := placed.allowed current next limited
  have counted : nextInt32 t.index = t.index + 1 := by
    simp only [nextInt32]
    omega
  have unpassed : ∀ instant, t.isPastStop instant = false := by simp [isPastStop, unstopped]
  obtain ⟨_, next?, follows, rfl⟩ := placed.advance_awaits next advances
  rw [counted] at follows
  by_cases more : t.index + 1 ≤ t.repetitions
  · obtain ⟨instant, occurs⟩ := occurs more
    have granted : ¬ t.repetitions < t.index + 1 := by omega
    simp only [following?, isExhausted, granted, decide_false, Bool.and_false, Bool.false_eq_true,
      ↓reduceIte, occurs] at follows
    cases follows
    simp [SimpleTimer.awaiting, unpassed, more]
  · have reached : t.repetitions < t.index + 1 := by omega
    simp only [following?, isExhausted, limited, reached, decide_true, Bool.and_true,
      ↓reduceIte] at follows
    cases follows
    simp [SimpleTimer.awaiting, more]

/-- A search does not go back nor further than it may, and finds an occurrence that is not before the
threshold. -/
theorem search_found {threshold : Instant} {more : Nat} {index : Int} {result : Int × Option Instant}
    (searched : t.search? threshold more index = some result) :
    index ≤ result.1 ∧ result.1 ≤ index + more ∧ ∀ instant, result.2 = some instant →
      t.isExhausted result.1 = false ∧ t.occurrence? result.1 = some (some instant) ∧
        threshold ≤ instant := by
  fun_induction search? t threshold more index with
  | case1 more index exhausted =>
    cases searched
    exact ⟨Int.le_refl _, by omega, nofun⟩
  | case2 more index granted broken => cases searched
  | case3 more index granted ended =>
    cases searched
    exact ⟨Int.le_refl _, by omega, nofun⟩
  | case4 more index granted instant occurs reached =>
    cases searched
    refine ⟨Int.le_refl _, by omega, ?_⟩
    rintro _ ⟨⟩
    exact ⟨by simpa using granted, occurs, reached⟩
  | case5 index granted instant occurs missed =>
    cases searched
    exact ⟨Int.le_refl _, by omega, nofun⟩
  | case6 index granted instant occurs missed more ih =>
    obtain ⟨onward, within, found⟩ := ih searched
    exact ⟨by omega, by omega, found⟩

theorem search_answers (shows : t.startShows = true) (threshold : Instant) (more : Nat) (index : Int) :
    ∃ result, t.search? threshold more index = some result := by
  fun_induction search? t threshold more index with
  | case1 more index exhausted => exact ⟨_, rfl⟩
  | case2 more index granted broken =>
    obtain ⟨instant?, occurs⟩ := occurrence_answers shows index
    cases broken.symm.trans occurs
  | case3 more index granted ended => exact ⟨_, rfl⟩
  | case4 more index granted instant occurs reached => exact ⟨_, rfl⟩
  | case5 index granted instant occurs missed => exact ⟨_, rfl⟩
  | case6 index granted instant occurs missed more ih => exact ih

theorem skip_unmissed (unmissed : ∀ current, t.next? = some current → threshold ≤ current) :
    t.skipUntil? threshold = some t := by
  unfold skipUntil?
  split
  · rfl
  · exact if_pos (unmissed _ (by assumption))

/-- A skip over missed firings awaits what the search found. -/
theorem skip_missed (next : t.next? = some current) (missed : current < threshold) :
    t.skipUntil? threshold = (t.found? threshold).map fun found => t.awaiting found.1 found.2 := by
  unfold skipUntil?
  rw [next]
  exact if_neg (not_le.mpr missed)

theorem skip_answers (shows : t.startShows = true) (threshold : Instant) :
    ∃ after, t.skipUntil? threshold = some after := by
  by_cases unmissed : ∀ current, t.next? = some current → threshold ≤ current
  · exact ⟨t, skip_unmissed unmissed⟩
  · obtain ⟨current, next, missed⟩ : ∃ current, t.next? = some current ∧ current < threshold := by
      simpa using unmissed
    obtain ⟨result, searched⟩ := search_answers shows threshold
      (maxInt32 - t.searchStart threshold).toNat (t.searchStart threshold)
    exact ⟨_, by rw [skip_missed next missed, found?, searched]; rfl⟩

/-- Passing over firings leaves the timer as it is or makes it await a placed firing further on. -/
theorem Placed.skip_cases (placed : t.Placed) (skipped : t.skipUntil? threshold = some after) :
    after = t ∨ t.next?.isSome ∧ ∃ k next?, t.index ≤ k ∧ after = t.awaiting k next? ∧ after.Placed := by
  by_cases unmissed : ∀ current, t.next? = some current → threshold ≤ current
  · rw [skip_unmissed unmissed] at skipped
    cases skipped
    exact .inl rfl
  obtain ⟨current, next, missed⟩ : ∃ current, t.next? = some current ∧ current < threshold := by
    simpa using unmissed
  rw [skip_missed next missed] at skipped
  obtain ⟨result, searched, rfl⟩ := Option.map_eq_some_iff.mp skipped
  obtain ⟨further, last, found⟩ := search_found searched
  have onward : t.index ≤ t.searchStart threshold := Int.le_max_right ..
  have within : t.searchStart threshold ≤ maxInt32 :=
    Int.max_le.mpr ⟨toInt32_getD_le _, placed.bounded.2⟩
  have forward := placed.bounded.1
  refine .inr ⟨by rw [next]; rfl, result.1, result.2, Int.le_trans onward further, rfl, ?_⟩
  refine placed.awaiting (by omega) (by omega) ?_ fun instant held =>
    ⟨(found instant held).1, (found instant held).2.1⟩
  -- the first occurrence would be before the threshold, as is the start
  intro instant held zero
  obtain ⟨_, occurs, late⟩ := found instant held
  have start := placed.first current next (by omega)
  rw [zero] at occurs
  exact not_le.mpr missed (start ▸ le_trans late (occurrence_zero placed.valid occurs))

end SimpleTimer

/-! ## Triggers that repeat -/

namespace Trigger

/-- What is asked of a trigger. -/
inductive Call
  | take
  | skip (threshold : Instant)
deriving DecidableEq, Repr

/-- The instants taken in a run of calls, and the trigger that is left. A run breaks off with the first
call that does. -/
def run : Trigger → List Call → Option (List Instant × Trigger)
  | t, [] => some ([], t)
  | t, .take :: calls => do
    let (taken?, rest) ← t.advance?
    let (taken, after) ← rest.run calls
    return (taken?.toList ++ taken, after)
  | t, .skip threshold :: calls => do (← t.skipUntil? threshold).run calls

/-- The index of the firing that comes next. -/
def index : Trigger → Int
  | pointInTime _ => 0
  | interval t => t.count
  | simpleTimer t => t.index

/-- The instant after which a trigger does not fire. -/
def stop? : Trigger → Option Instant
  | pointInTime _ => none
  | interval t => t.stop?
  | simpleTimer t => t.stop?

/-- The k-th occurrence of a periodic trigger; a point in time has none. -/
def occurrence? (k : Int) : Trigger → Option (Option Instant)
  | pointInTime _ => some none
  | interval t => some (t.occurrence? k)
  | simpleTimer t => t.occurrence? k

/-- The number of firings in all, if there is a limit to it. -/
def allowance? : Trigger → Option Int
  | pointInTime _ => some 1
  | interval t => if 0 < t.limit then some t.limit else none
  | simpleTimer t => if 0 ≤ t.repetitions then some (t.repetitions + 1) else none

/-- What a trigger is, apart from how far it has come. -/
def plan : Trigger → Trigger
  | pointInTime _ => pointInTime none
  | interval t => interval { t with count := 0, next? := none }
  | simpleTimer t => simpleTimer { t with index := 0, next? := none, ended := false }

/-- The trigger repeats, and the firing that comes next has its place. -/
inductive Placed : Trigger → Prop
  | interval {t : Interval} (placed : t.Placed) : Placed (interval t)
  | simpleTimer {t : SimpleTimer} (placed : t.Placed) : Placed (simpleTimer t)

/-- A repeating trigger as it is made, with a start that is an instant. -/
inductive Made : Trigger → Prop
  | interval {start : Instant} {stop? : Option Instant} {limit periodMs : Int} {t : Trigger}
    (made : newInterval start stop? limit periodMs = .ok t)
    (valid : start.nano < 2 * nanosPerSecond) : Made t
  | simpleTimer {start : Instant} {period : Int} {unit : TimeUnit} {repetitions : Int}
    {stop? : Option Instant} {zoneName : String} {t : Trigger}
    (made : newSimpleTimer start period unit repetitions stop? zoneName = .ok t)
    (valid : start.nano < 2 * nanosPerSecond) : Made t

/-- How many firings may yet be taken of a total. -/
def left (total : Int) (t : Trigger) : Int := if t.next?.isSome then total - t.index else 0

variable {t after : Trigger} {current threshold : Instant} {total : Int} {calls : List Call}
  {taken : List Instant} {taken? : Option Instant}

theorem allowance_of_plan (same : after.plan = t.plan) : after.allowance? = t.allowance? := by
  have planned : ∀ t : Trigger, t.allowance? = t.plan.allowance? := by
    intro t
    cases t <;> rfl
  rw [planned after, same, ← planned]

theorem stop_of_plan (same : after.plan = t.plan) : after.stop? = t.stop? := by
  have planned : ∀ t : Trigger, t.stop? = t.plan.stop? := by
    intro t
    cases t <;> rfl
  rw [planned after, same, ← planned]

theorem occurrence_of_plan (same : after.plan = t.plan) (k : Int) :
    after.occurrence? k = t.occurrence? k := by
  have planned : ∀ t : Trigger, t.occurrence? k = t.plan.occurrence? k := by
    intro t
    cases t <;> rfl
  rw [planned after, same, ← planned]

theorem startShows_of_plan (same : after.plan = t.plan) : after.startShows = t.startShows := by
  have planned : ∀ t : Trigger, t.startShows = t.plan.startShows := by
    intro t
    cases t <;> rfl
  rw [planned after, same, ← planned]

theorem advance_timer {timer : SimpleTimer}
    (advances : (simpleTimer timer).advance? = some (taken?, after)) :
    ∃ left, timer.advance? = some (taken?, left) ∧ after = .simpleTimer left := by
  obtain ⟨⟨_, left⟩, moved, same⟩ := Option.map_eq_some_iff.mp advances
  cases same
  exact ⟨left, moved, rfl⟩

theorem skip_timer {timer : SimpleTimer}
    (skipped : (simpleTimer timer).skipUntil? threshold = some after) :
    ∃ left, timer.skipUntil? threshold = some left ∧ after = .simpleTimer left := by
  obtain ⟨left, passed, rfl⟩ := Option.map_eq_some_iff.mp skipped
  exact ⟨left, passed, rfl⟩

theorem skip_interval {i : Interval} (skipped : (interval i).skipUntil? threshold = some after) :
    ∃ left, i.skipUntil? threshold = some left ∧ after = .interval left := by
  obtain ⟨left, passed, rfl⟩ := Option.map_eq_some_iff.mp skipped
  exact ⟨left, passed, rfl⟩

theorem advance_plan (advances : t.advance? = some (taken?, after)) : after.plan = t.plan := by
  cases t with
  | pointInTime _ =>
    cases advances
    rfl
  | interval t =>
    simp only [advance?, Interval.advance] at advances
    split at advances
    · cases advances
      rfl
    split at advances <;> cases advances <;> rfl
  | simpleTimer t =>
    obtain ⟨left, moved, rfl⟩ := advance_timer advances
    unfold SimpleTimer.advance? at moved
    split at moved
    · cases moved
      rfl
    split at moved
    · cases moved
      rfl
    obtain ⟨next?, _, same⟩ := Option.map_eq_some_iff.mp moved
    cases same
    rfl

theorem skip_plan (skipped : t.skipUntil? threshold = some after) : after.plan = t.plan := by
  cases t with
  | pointInTime _ =>
    cases skipped
    rfl
  | interval t =>
    obtain ⟨left, passed, rfl⟩ := skip_interval skipped
    unfold Interval.skipUntil? at passed
    split at passed
    · cases passed
      rfl
    split at passed
    · cases passed
      rfl
    split at passed <;> cases passed
    rfl
  | simpleTimer t =>
    obtain ⟨left, passed, rfl⟩ := skip_timer skipped
    unfold SimpleTimer.skipUntil? at passed
    split at passed
    · cases passed
      rfl
    split at passed
    · cases passed
      rfl
    obtain ⟨result, _, rfl⟩ := Option.map_eq_some_iff.mp passed
    rfl

theorem run_take (ran : t.run (.take :: calls) = some (taken, after)) :
    ∃ taken? rest later, t.advance? = some (taken?, rest) ∧ rest.run calls = some (later, after) ∧
      taken = taken?.toList ++ later := by
  obtain ⟨⟨taken?, rest⟩, advances, ran⟩ := Option.bind_eq_some_iff.mp ran
  obtain ⟨⟨later, _⟩, ran, same⟩ := Option.bind_eq_some_iff.mp ran
  cases same
  exact ⟨taken?, rest, later, advances, ran, rfl⟩

theorem run_skip (ran : t.run (.skip threshold :: calls) = some (taken, after)) :
    ∃ rest, t.skipUntil? threshold = some rest ∧ rest.run calls = some (taken, after) :=
  Option.bind_eq_some_iff.mp ran

/-- Whatever is asked of a trigger, it goes on with the same plan. -/
theorem run_plan (ran : t.run calls = some (taken, after)) : after.plan = t.plan := by
  induction calls generalizing t taken with
  | nil =>
    cases ran
    rfl
  | cons call calls ih =>
    cases call with
    | take =>
      obtain ⟨_, rest, later, advances, ran', rfl⟩ := run_take ran
      exact (ih ran').trans (advance_plan advances)
    | skip threshold =>
      obtain ⟨rest, skipped, ran⟩ := run_skip ran
      exact (ih ran).trans (skip_plan skipped)

theorem advance_answers (shows : t.startShows = true) :
    ∃ taken? after, t.advance? = some (taken?, after) := by
  cases t with
  | pointInTime next? => exact ⟨_, _, rfl⟩
  | interval t => exact ⟨_, _, rfl⟩
  | simpleTimer t =>
    obtain ⟨taken?, after, advances⟩ := SimpleTimer.advance_answers shows
    exact ⟨taken?, .simpleTimer after, by rw [advance?, advances]; rfl⟩

namespace Placed

/-- The index of a pending firing is one that the number of firings allows. -/
theorem index_lt (placed : t.Placed) (next : t.next? = some current)
    (limited : t.allowance? = some total) : 0 ≤ t.index ∧ t.index < total := by
  cases placed with
  | interval placed =>
    have allowed := placed.allowed current next
    have forward := placed.bounded.1
    simp only [allowance?] at limited
    split at limited <;> cases limited
    exact ⟨forward, allowed (by assumption)⟩
  | simpleTimer placed =>
    have allowed := placed.allowed current next
    have forward := placed.bounded.1
    simp only [allowance?] at limited
    split at limited <;> cases limited
    exact ⟨forward, Int.lt_add_one_of_le (allowed (by assumption))⟩

theorem left_nonneg (placed : t.Placed) (limited : t.allowance? = some total) : 0 ≤ t.left total := by
  unfold left
  split
  · rename_i pending
    obtain ⟨current, next⟩ := Option.isSome_iff_exists.mp pending
    have allowed := placed.index_lt next limited
    omega
  · exact Int.le_refl 0

theorem take_none (placed : t.Placed) (ended : t.next? = none) : t.advance? = some (none, t) := by
  cases placed with
  | interval _ => simp only [advance?, Interval.advance_none ended]
  | simpleTimer _ => simp only [advance?, SimpleTimer.advance_none ended, Option.map_some]

/-- The firing that comes next is the one that is taken, and the next index follows. -/
theorem take_some (placed : t.Placed) (next : t.next? = some current)
    (advances : t.advance? = some (taken?, after)) :
    taken? = some current ∧ after.Placed ∧ after.index = nextInt32 t.index := by
  have counted : ∀ {k : Int}, 0 ≤ k → 0 < nextInt32 k ∧ nextInt32 k ≤ maxInt32 := by
    intro k forward
    simp only [nextInt32, maxInt32]
    omega
  cases placed with
  | interval placed =>
    obtain ⟨forward, bounded⟩ := counted placed.bounded.1
    rw [advance?, placed.advance_eq next] at advances
    cases advances
    exact ⟨rfl, .interval (placed.moved (Int.le_of_lt forward) bounded), rfl⟩
  | simpleTimer placed =>
    obtain ⟨forward, bounded⟩ := counted placed.bounded.1
    obtain ⟨left, moved, rfl⟩ := advance_timer advances
    obtain ⟨rfl, next?, follows, rfl⟩ := placed.advance_awaits next moved
    refine ⟨rfl, .simpleTimer (placed.awaiting (Int.le_of_lt forward) bounded ?_ ?_), rfl⟩
    · exact fun _ _ => Int.ne_of_gt forward
    · rintro instant rfl
      exact SimpleTimer.following_some follows

/-- Taking a firing, if there is one, keeps the next one placed. -/
theorem take (placed : t.Placed) (advances : t.advance? = some (taken?, after)) :
    taken? = t.next? ∧ after.Placed := by
  cases next : t.next? with
  | none =>
    rw [placed.take_none next] at advances
    cases advances
    exact ⟨rfl, placed⟩
  | some current =>
    obtain ⟨taken, still, _⟩ := placed.take_some next advances
    exact ⟨taken, still⟩

/-- Passing over firings goes on and starts nothing anew. -/
theorem skip (placed : t.Placed) (skipped : t.skipUntil? threshold = some after) :
    after.Placed ∧ t.index ≤ after.index ∧ (t.next? = none → after = t) := by
  cases placed with
  | @interval t placed =>
    obtain ⟨left, passed, rfl⟩ := skip_interval skipped
    rcases placed.skip_cases threshold with same | ⟨pending, k, onward, bounded, same⟩
    · cases passed.symm.trans same
      exact ⟨.interval placed, Int.le_refl _, fun _ => rfl⟩
    · cases passed.symm.trans same
      have forward := placed.bounded.1
      refine ⟨.interval (placed.moved (by omega) bounded), onward, ?_⟩
      intro ended
      change t.next? = none at ended
      simp [ended] at pending
  | @simpleTimer t placed =>
    obtain ⟨left, passed, rfl⟩ := skip_timer skipped
    rcases placed.skip_cases passed with rfl | ⟨pending, k, next?, onward, rfl, still⟩
    · exact ⟨.simpleTimer placed, Int.le_refl _, fun _ => rfl⟩
    · refine ⟨.simpleTimer still, onward, ?_⟩
      intro ended
      change t.next? = none at ended
      simp [ended] at pending

theorem skip_answers (placed : t.Placed) (shows : t.startShows = true) (threshold : Instant) :
    ∃ after, t.skipUntil? threshold = some after := by
  cases placed with
  | interval placed =>
    rcases placed.skip_cases threshold with same | ⟨_, _, _, _, same⟩
    · exact ⟨_, by rw [skipUntil?, same]; rfl⟩
    · exact ⟨_, by rw [skipUntil?, same]; rfl⟩
  | simpleTimer placed =>
    obtain ⟨after, skipped⟩ := SimpleTimer.skip_answers shows threshold
    exact ⟨.simpleTimer after, by rw [skipUntil?, skipped]; rfl⟩

/-- Every run of calls leaves the next firing placed. -/
theorem run_placed (placed : t.Placed) (ran : t.run calls = some (taken, after)) : after.Placed := by
  induction calls generalizing t taken with
  | nil =>
    cases ran
    exact placed
  | cons call calls ih =>
    cases call with
    | take =>
      obtain ⟨_, rest, _, advances, ran', _⟩ := run_take ran
      exact ih (placed.take advances).2 ran'
    | skip threshold =>
      obtain ⟨rest, skipped, ran⟩ := run_skip ran
      exact ih (placed.skip skipped).1 ran

/-- With a start that shows as a local time, every run of calls comes to its end. -/
theorem run_answers (placed : t.Placed) (shows : t.startShows = true) (calls : List Call) :
    ∃ taken after, t.run calls = some (taken, after) := by
  induction calls generalizing t with
  | nil => exact ⟨[], t, rfl⟩
  | cons call calls ih =>
    cases call with
    | take =>
      obtain ⟨taken?, rest, advances⟩ := advance_answers shows
      obtain ⟨taken, after, ran⟩ := ih (placed.take advances).2
        ((startShows_of_plan (advance_plan advances)).trans shows)
      exact ⟨taken?.toList ++ taken, after, by simp [run, advances, ran]⟩
    | skip threshold =>
      obtain ⟨rest, skipped⟩ := placed.skip_answers shows threshold
      obtain ⟨taken, after, ran⟩ := ih (placed.skip skipped).1
        ((startShows_of_plan (skip_plan skipped)).trans shows)
      exact ⟨taken, after, by simp [run, skipped, ran]⟩

/-- If no firing is passed over, each that is taken was pending under the index that counts on to it. -/
theorem pending_of_taken (placed : t.Placed) (takes : ∀ call ∈ calls, call = .take)
    (ran : t.run calls = some (taken, after)) {n : Nat} {instant : Instant}
    (held : taken[n]? = some instant) (small : t.index + n ≤ maxInt32) :
    ∃ u : Trigger, u.Placed ∧ u.plan = t.plan ∧ u.index = t.index + n ∧ u.next? = some instant := by
  induction calls generalizing t n taken with
  | nil =>
    cases ran
    cases held
  | cons call calls ih =>
    cases takes call List.mem_cons_self
    have takes : ∀ call ∈ calls, call = .take := fun call member =>
      takes call (List.mem_cons_of_mem _ member)
    obtain ⟨taken?, rest, later, advances, ran', rfl⟩ := run_take ran
    cases next : t.next? with
    | none =>
      rw [placed.take_none next] at advances
      cases advances
      exact ih placed takes ran' held small
    | some current =>
      obtain ⟨rfl, still, index⟩ := placed.take_some next advances
      cases n with
      | zero =>
        cases held
        exact ⟨t, placed, rfl, by omega, next⟩
      | succ n =>
        have counted : rest.index = t.index + 1 := by
          rw [index, nextInt32]
          omega
        obtain ⟨u, placed', plan', index', next'⟩ := ih still takes ran' held (by omega)
        exact ⟨u, placed', plan'.trans (advance_plan advances), by omega, next'⟩

/-- The number of firings bounds how many are taken from now on. -/
theorem taken_le (placed : t.Placed) (limited : t.allowance? = some total) (small : total ≤ maxInt32)
    (ran : t.run calls = some (taken, after)) : (taken.length : Int) ≤ t.left total := by
  induction calls generalizing t taken with
  | nil =>
    cases ran
    exact placed.left_nonneg limited
  | cons call calls ih =>
    cases call with
    | take =>
      obtain ⟨taken?, rest, later, advances, ran', rfl⟩ := run_take ran
      cases next : t.next? with
      | none =>
        rw [placed.take_none next] at advances
        cases advances
        exact ih placed limited ran'
      | some current =>
        obtain ⟨rfl, still, index⟩ := placed.take_some next advances
        have limited' := (allowance_of_plan (advance_plan advances)).trans limited
        have bound := ih still limited' ran'
        have allowed := placed.index_lt next limited
        simp only [left, next, index, nextInt32, Option.isSome_some, ↓reduceIte, Option.toList_some,
          List.length_append, List.length_singleton] at bound ⊢
        split at bound <;> omega
    | skip threshold =>
      obtain ⟨rest, skipped, ran⟩ := run_skip ran
      obtain ⟨still, onward, ended⟩ := placed.skip skipped
      have bound := ih still ((allowance_of_plan (skip_plan skipped)).trans limited) ran
      cases next : t.next? with
      | none =>
        rw [ended next] at bound
        exact bound
      | some current =>
        have allowed := placed.index_lt next limited
        simp only [left, next, Option.isSome_some, ↓reduceIte] at bound ⊢
        split at bound <;> omega

/-- Without a last instant a firing is followed by the next occurrence, unless the number of firings is
used up. -/
theorem next_take (placed : t.Placed) (next : t.next? = some current) (unstopped : t.stop? = none)
    (limited : t.allowance? = some total) (small : total ≤ maxInt32)
    (occurs : t.index + 1 < total → ∃ instant, t.occurrence? (t.index + 1) = some (some instant))
    (advances : t.advance? = some (taken?, after)) : after.next?.isSome ↔ t.index + 1 < total := by
  cases placed with
  | interval placed =>
    simp only [allowance?] at limited
    split at limited <;> cases limited
    cases advances
    refine placed.next_advance next unstopped (by assumption) small fun more => ?_
    obtain ⟨instant, occurs⟩ := occurs more
    exact Option.isSome_iff_exists.mpr ⟨instant, Option.some_inj.mp occurs⟩
  | simpleTimer placed =>
    simp only [allowance?] at limited
    split at limited <;> cases limited
    obtain ⟨left, moved, rfl⟩ := advance_timer advances
    rw [Int.add_lt_add_iff_right, ← Int.add_one_le_iff] at occurs ⊢
    exact placed.next_advance next unstopped (by assumption) (Int.add_one_le_iff.mp small) occurs
      moved

/-- If no firing is passed over and none is out of reach, as many are taken as are left. -/
theorem taken_eq (placed : t.Placed) (limited : t.allowance? = some total) (small : total ≤ maxInt32)
    (unstopped : t.stop? = none)
    (occurs : ∀ k, 0 < k → k < total → ∃ instant, t.occurrence? k = some (some instant))
    (unspent : t.next?.isSome ↔ t.index < total) (takes : ∀ call ∈ calls, call = .take)
    (ran : t.run calls = some (taken, after)) :
    (taken.length : Int) = min (calls.length : Int) (t.left total) := by
  induction calls generalizing t taken with
  | nil =>
    cases ran
    have unspent := placed.left_nonneg limited
    simp only [List.length_nil]
    omega
  | cons call calls ih =>
    cases takes call List.mem_cons_self
    have takes : ∀ call ∈ calls, call = .take := fun call member =>
      takes call (List.mem_cons_of_mem _ member)
    obtain ⟨taken?, rest, later, advances, ran', rfl⟩ := run_take ran
    cases next : t.next? with
    | none =>
      rw [placed.take_none next] at advances
      cases advances
      have counted := ih placed limited unstopped occurs unspent takes ran'
      simp only [left, next, Option.isSome_none, Bool.false_eq_true, ↓reduceIte] at counted ⊢
      simp only [Option.toList_none, List.nil_append, List.length_cons]
      omega
    | some current =>
      obtain ⟨rfl, still, index⟩ := placed.take_some next advances
      have plan := advance_plan advances
      have allowed := placed.index_lt next limited
      have counted : nextInt32 t.index = t.index + 1 := by
        simp only [nextInt32]
        omega
      rw [counted] at index
      have following := placed.next_take next unstopped limited small
        (fun more => occurs (t.index + 1) (by omega) more) advances
      rw [← index] at following
      have onward := ih still ((allowance_of_plan plan).trans limited)
        ((stop_of_plan plan).trans unstopped)
        (fun k positive below => by rw [occurrence_of_plan plan]; exact occurs k positive below)
        following takes ran'
      simp only [left, following, index] at onward
      simp only [left, next, Option.isSome_some, ↓reduceIte, Option.toList_some, List.length_append,
        List.length_cons, List.length_nil]
      split at onward <;> omega

end Placed

theorem checked_of_mapError {ε δ α : Type} {f : ε → δ} {answer : Except ε α} {value : α}
    (mapped : answer.mapError f = .ok value) : answer = .ok value := by
  cases answer <;> cases mapped
  rfl

/-- A last instant that passes the check is not before the start. -/
theorem start_inTime {start : Instant} {stop? : Option Instant} {checked : Unit}
    (window : checkWindow start stop? = .ok checked) : stop?.any (· < start) = false := by
  cases stop? with
  | none => rfl
  | some stop =>
    simp only [checkWindow] at window
    split at window
    · cases window
    · rename_i before
      simpa using before

/-- A trigger is made with its start as the firing that comes next. -/
theorem Made.placed (made : t.Made) : t.Placed ∧ t.index = 0 ∧ t.next?.isSome := by
  have bounded : (0 : Int) ≤ 0 ∧ 0 ≤ maxInt32 := by decide
  cases made with
  | interval made valid =>
    simp only [newInterval, bind, Except.bind, pure, Except.pure] at made
    split at made
    · cases made
    rename_i positive
    split at made <;> cases made
    rename_i window
    refine ⟨.interval ⟨?_, ?_, ?_, ?_, bounded, Int.not_le.mp positive, valid⟩, rfl, rfl⟩
    · rintro _ ⟨⟩ _
      rfl
    · exact fun _ _ nonzero => absurd rfl nonzero
    · rintro _ ⟨⟩
      exact start_inTime window
    · exact fun _ _ limited => limited
  | simpleTimer made valid =>
    simp only [newSimpleTimer, bind, Except.bind, pure, Except.pure] at made
    split at made
    · cases made
    rename_i positive
    split at made
    · cases made
    rename_i window
    split at made <;> cases made
    have window := checked_of_mapError window
    refine ⟨.simpleTimer ⟨?_, ?_, ?_, ?_, bounded, Int.not_le.mp positive, valid⟩, rfl, rfl⟩
    · rintro _ ⟨⟩ _
      rfl
    · exact fun _ _ nonzero => absurd rfl nonzero
    · rintro _ ⟨⟩
      exact start_inTime window
    · exact fun _ _ limited => limited

/-- However firings are taken from a repeating trigger and passed over, as far as the calls have answers,
the firing that comes next has its place and is the one that is taken next. Of a limited number of firings
no more are taken, and if none is passed over or out of reach, just as many as are asked for up to that
number. All calls have answers if the start shows as a local time, wherever days are counted, in a zone of
`Zone.Table`. -/
theorem pending_firings_keep_their_place (made : t.Made) (calls : List Call) :
    (t.startShows = true → ∃ taken after, t.run calls = some (taken, after) ∧
      ∃ left, after.advance? = some (after.next?, left)) ∧
    ∀ taken after, t.run calls = some (taken, after) → after.Placed ∧ after.plan = t.plan ∧
      (∀ taken? left, after.advance? = some (taken?, left) → after.next? = taken?) ∧
      ∀ total, t.allowance? = some total → total ≤ maxInt32 → (taken.length : Int) ≤ total ∧
        ((∀ call ∈ calls, call = .take) → t.stop? = none →
          (∀ k, 0 < k → k < total → ∃ instant, t.occurrence? k = some (some instant)) →
          (taken.length : Int) = min (calls.length : Int) total) := by
  obtain ⟨placed, zero, pending⟩ := made.placed
  refine ⟨?_, ?_⟩
  · intro shows
    obtain ⟨taken, after, ran⟩ := placed.run_answers shows calls
    obtain ⟨taken?, left, advances⟩ :=
      advance_answers ((startShows_of_plan (run_plan ran)).trans shows)
    have same := ((placed.run_placed ran).take advances).1
    exact ⟨taken, after, ran, left, same ▸ advances⟩
  intro taken after ran
  have still := placed.run_placed ran
  refine ⟨still, run_plan ran, fun taken? left advances => (still.take advances).1.symm, ?_⟩
  intro total limited small
  obtain ⟨current, next⟩ := Option.isSome_iff_exists.mp pending
  have allowed := placed.index_lt next limited
  have left : t.left total = total := by
    rw [Trigger.left, if_pos pending, zero, Int.sub_zero]
  refine ⟨left ▸ placed.taken_le limited small ran, ?_⟩
  intro takes unstopped occurs
  have unspent : t.next?.isSome ↔ t.index < total := iff_of_true pending allowed.2
  have counted := placed.taken_eq limited small unstopped occurs unspent takes ran
  rw [left] at counted
  exact counted

/-- Every minute, three times in all. -/
def thrice : Trigger := .interval ⟨⟨60, 0⟩, none, 3, 0, 60000, some ⟨60, 0⟩⟩

/-- Four times asked, it fires three times. -/
theorem pending_firings_keep_their_place_for_three_minutes :
    ∃ taken after, thrice.run [.take, .take, .take, .take] = some (taken, after) ∧ after.Placed ∧
      (∃ left, after.advance? = some (after.next?, left)) ∧ taken.length = 3 := by
  have made : newInterval ⟨60, 0⟩ none 3 60000 = .ok thrice := rfl
  obtain ⟨answers, keeps⟩ :=
    pending_firings_keep_their_place (.interval made (by decide)) [.take, .take, .take, .take]
  obtain ⟨taken, after, ran, next⟩ := answers rfl
  obtain ⟨placed, _, _, counted⟩ := keeps taken after ran
  have occurs : ∀ k, 0 < k → k < 3 → ∃ instant, thrice.occurrence? k = some (some instant) := by
    intro k positive below
    obtain rfl | rfl : k = 1 ∨ k = 2 := by omega
    · exact ⟨_, rfl⟩
    · exact ⟨_, rfl⟩
  have three := (counted 3 rfl (by decide)).2 (by decide) rfl occurs
  simp only [List.length_cons, List.length_nil] at three
  exact ⟨taken, after, ran, placed, next, by omega⟩

-- a firing that is passed over counts
example : (thrice.run [.take, .skip ⟨150, 0⟩, .take, .take]).map (·.1) =
    some [⟨60, 0⟩, ⟨180, 0⟩] := by decide

/-- Daily in Abidjan from the first instant there is, when clocks there, sixteen minutes behind, do not
show a local time yet. -/
def dailyFromTheFirst : SimpleTimer :=
  ⟨.earliest, 1, .days, -1, none, "Africa/Abidjan", some .earliest, 0, false⟩

/-- A firing is pending there, and taking it breaks off, as does passing over it. -/
theorem firings_without_a_local_time_are_not_taken :
    newSimpleTimer .earliest 1 .days (-1) none "Africa/Abidjan" =
        .ok (.simpleTimer dailyFromTheFirst) ∧
      (simpleTimer dailyFromTheFirst).next? = some .earliest ∧
      (simpleTimer dailyFromTheFirst).advance? = none ∧
      (simpleTimer dailyFromTheFirst).skipUntil? ⟨0, 0⟩ = none := by
  have known : (Zone.named? "Africa/Abidjan").isNone = false := by decide +kernel
  refine ⟨?_, rfl, by decide +kernel, by decide +kernel⟩
  simp [newSimpleTimer, checkWindow, known, dailyFromTheFirst, Except.mapError, bind, Except.bind, pure,
    Except.pure]

end Trigger

end Punctual
