import Punctual.Proofs.LocalTimes
import Punctual.Proofs.TimerSkips

/-!
Calendar days. An occurrence counted in days is the instant of a local time: of what clocks show at the
start, so many days later. The zone and the start decide it alone, so a firing that clocks move does not
move any other.

The firings of a daily timer come one after the other. Only where clocks go forward by a whole day, two of
them coincide: the firing on the day that is skipped moves to the next day, on which there is one already.
-/
namespace Punctual

/-- What clocks show at an instant, so many calendar days later. -/
def Zone.daysAfter (z : Zone) (t : Instant) (days : Int) : LocalTime :=
  (z.toLocal t).later (days * 86400)

namespace SimpleTimer

variable {t u : SimpleTimer} {instant a b : Instant} {k : Int} {zone : Zone}

/-! ## Occurrences on calendar days -/

/-- As far as days and local times go, an occurrence is that of the local time so many days later. -/
theorem occurrence_daysAfter (days : t.unit = .days) (known : t.zone? = some zone)
    (counted : 0 ≤ t.period * k ∧ t.period * k ≤ maxInt64)
    (started : (zone.toLocal t.start).reading.inRange = true)
    (within : (zone.daysAfter t.start (t.period * k)).reading.inRange = true) :
    t.occurrence? k = some (zone.instantOf? (zone.daysAfter t.start (t.period * k))) := by
  have least : minInt64 < 0 := by decide
  have fits : toInt64? (t.period * k) = some (t.period * k) := if_pos ⟨by omega, counted.2⟩
  have forward : ¬ t.period * k < 0 := by omega
  have moved : Zone.daysLater? (zone.toLocal t.start) (t.period * k).toNat =
      some (zone.daysAfter t.start (t.period * k)) := by
    unfold Zone.daysLater?
    rw [Int.toNat_of_nonneg counted.1]
    exact if_pos within
  unfold occurrence?
  simp only [fits, days, known, daysAfterStart?, started, Bool.not_true, Bool.false_eq_true, forward,
    ↓reduceIte, moved, Option.bind_some]

theorem instantOf_occurrence (days : t.unit = .days) (known : t.zone? = some zone)
    (occurs : t.occurrence? k = some (some instant)) :
    zone.instantOf? (zone.daysAfter t.start (t.period * k)) = some instant := by
  obtain ⟨_, known', found⟩ := occurrence_days days occurs
  cases known.symm.trans known'
  obtain ⟨_, forward, later, moved, shown⟩ := daysAfterStart_some found
  unfold Zone.daysLater? at moved
  rw [Int.toNat_of_nonneg forward] at moved
  dsimp only at moved
  split at moved <;> cases moved
  exact shown

/-- A skipped local time is read with the offset before the change. -/
theorem occurrence_skipped (days : t.unit = .days) (known : t.zone? = some zone)
    (valid : t.start.nano < 2 * nanosPerSecond) (counted : 0 ≤ t.period * k ∧ t.period * k ≤ maxInt64)
    (started : (zone.toLocal t.start).reading.inRange = true)
    (within : (zone.daysAfter t.start (t.period * k)).reading.inRange = true) {change : Int}
    (skips : zone.Skips change (zone.daysAfter t.start (t.period * k)))
    (clear : t.start.isLeap = false ∨ zone.offsetAt (change - 1) = 0) :
    t.occurrence? k = some (
      if ((zone.daysAfter t.start (t.period * k)).under (zone.offsetAt (change - 1))).inRange then
        some ((zone.daysAfter t.start (t.period * k)).under (zone.offsetAt (change - 1)))
      else none) := by
  have bounded := zone.offsetAt_bounded change
  have later : 0 < t.period * k := by
    by_contra none_later
    have zero : t.period * k = 0 := by omega
    apply skips.not_shown t.start
    rw [zero]
    simp [Zone.daysAfter, LocalTime.later]
  rw [occurrence_daysAfter days known counted started within]
  generalize local_eq : zone.daysAfter t.start (t.period * k) = l at skips within ⊢
  have second : l.reading.second = (zone.toLocal t.start).reading.second + t.period * k * 86400 := by
    rw [← local_eq]
    rfl
  have nano : l.reading.nano = t.start.nano := by
    rw [← local_eq]
    rfl
  have leap : l.reading.isLeap = t.start.isLeap := by
    rw [Instant.isLeap, nano]
    rfl
  simp only [Instant.inRange, Bool.and_eq_true, decide_eq_true_eq] at started within
  refine congrArg some ?_
  rw [Zone.instantOf_skipped skips (nano ▸ valid) ?_ (by omega) within.2]
  · rcases clear with plain | same
    · rw [Instant.shift?, Instant.shift_seconds (leap ▸ plain)]
      rfl
    · rw [same, Instant.shift?]
      have still : l.reading.shift (-0 * nanosPerSecond) = l.under 0 := by
        rw [Int.neg_zero, Int.zero_mul, Instant.shift_zero (nano ▸ valid)]
        simp [LocalTime.under]
      rw [still]
  · rcases clear with plain | same
    · exact .inl (leap ▸ plain)
    · exact .inr (by omega)

/-- An occurrence counted in days keeps the local time of the start. If that is shown on its day, the
occurrence is the first instant that shows it. If clocks are put forward over it, the occurrence is that
local time read with the offset just before the change, so that it shows moved forward by as much as clocks
are; for a start within a leap second, only where that offset is zero. One of both is the case, because
changes are as far apart as `Zone.steady` says; the zones are those of `Zone.Table`. And no firing that is
taken or passed over, moved or not, changes any occurrence. -/
theorem days_keep_local_time {l : LocalTime}
    (days : t.unit = .days) (known : t.zone? = some zone) (valid : t.start.nano < 2 * nanosPerSecond)
    (counted : 0 ≤ t.period * k ∧ t.period * k ≤ maxInt64)
    (started : (zone.toLocal t.start).reading.inRange = true)
    (kept : l = zone.daysAfter t.start (t.period * k)) (within : l.reading.inRange = true) :
    (∀ first, IsLeast { instant | zone.toLocal instant = l } first →
      t.occurrence? k = some (if first.inRange then some first else none)) ∧
    (∀ change, zone.Skips change l → t.start.isLeap = false ∨ zone.offsetAt (change - 1) = 0 →
      t.occurrence? k = some (if (l.under (zone.offsetAt (change - 1))).inRange then
        some (l.under (zone.offsetAt (change - 1))) else none) ∧
      zone.toLocal (l.under (zone.offsetAt (change - 1))) =
        l.later (zone.offsetAt change - zone.offsetAt (change - 1))) ∧
    ((∃ first, IsLeast { instant | zone.toLocal instant = l } first) ∨ ∃ change, zone.Skips change l) ∧
    ∀ calls taken after, (Trigger.simpleTimer t).run calls = some (taken, .simpleTimer after) →
      ∀ j, after.occurrence? j = t.occurrence? j := by
  subst kept
  refine ⟨?_, ?_, ?_, ?_⟩
  · intro first least
    rw [occurrence_daysAfter days known counted started within]
    exact congrArg some (Zone.instantOf_shown least)
  · intro change skips clear
    exact ⟨occurrence_skipped days known valid counted started within skips clear, skips.toLocal_under⟩
  · rcases zone.shown_or_skipped (zone.daysAfter t.start (t.period * k)) with ⟨_, shown⟩ | skipped
    · exact .inl (Zone.exists_isLeast shown)
    · exact .inr skipped
  · intro calls taken after ran j
    exact Trigger.occurrence_of_plan (Trigger.run_plan ran) j

/-- Every night from the one before clocks go forward in Tunis, where they do at two o'clock. -/
def nightlyInTunis (start : Instant) : SimpleTimer :=
  ⟨start, 1, .days, -1, none, "Africa/Tunis", some start, 0, false⟩

theorem tunis_puts_clocks_forward :
    ∃ zone, Zone.named? "Africa/Tunis" = some zone ∧ zone.offsetAt 1206754199 = 3600 ∧
      zone.offsetAt 1206754200 = 3600 ∧ zone.offsetAt 1206838799 = 3600 ∧
      zone.offsetAt 1206838800 = 7200 := by
  have shown : (Zone.named? "Africa/Tunis").map (fun zone => (zone.offsetAt 1206754199,
      zone.offsetAt 1206754200, zone.offsetAt 1206838799, zone.offsetAt 1206838800)) =
      some (3600, 3600, 3600, 7200) := by
    decide +kernel
  obtain ⟨zone, known, offsets⟩ := Option.map_eq_some_iff.mp shown
  simp only [Prod.mk.injEq] at offsets
  exact ⟨zone, known, offsets⟩

/-- Half past two is skipped in that night: the firing is an hour later, at half past three. -/
theorem days_keep_local_time_in_tunis :
    ∃ zone, Zone.named? "Africa/Tunis" = some zone ∧
      (nightlyInTunis ⟨1206754200, 0⟩).occurrence? 1 = some (some ⟨1206840600, 0⟩) ∧
      zone.toLocal ⟨1206840600, 0⟩ = ⟨⟨1206847800, 0⟩⟩ := by
  obtain ⟨zone, known, _, shown, before, after⟩ := tunis_puts_clocks_forward
  have started : zone.toLocal ⟨1206754200, 0⟩ = ⟨⟨1206757800, 0⟩⟩ := by
    simp [Zone.toLocal, shown]
  have kept : (⟨⟨1206844200, 0⟩⟩ : LocalTime) = zone.daysAfter ⟨1206754200, 0⟩ (1 * 1) := by
    simp [Zone.daysAfter, started, LocalTime.later]
  have skips : zone.Skips 1206838800 ⟨⟨1206844200, 0⟩⟩ := by
    constructor
    · simp [before]
    · simp [after]
  obtain ⟨_, moved, _⟩ := days_keep_local_time (t := nightlyInTunis ⟨1206754200, 0⟩) rfl known
    (by decide) (by decide) (by rw [nightlyInTunis, started]; decide) kept (by decide)
  obtain ⟨occurs, forward⟩ := moved 1206838800 skips (.inl rfl)
  simp only [Int.reduceSub, before, after] at occurs forward
  exact ⟨zone, known, occurs, forward⟩

/-- Within the leap second before half past two, in the night in which that is skipped, the firing is a
second too late: half a second after half past three, and not within the leap second before it, as the
local time is with the offset before the change. -/
theorem skipped_leap_seconds_move_too_far :
    ∃ zone, Zone.named? "Africa/Tunis" = some zone ∧
      zone.Skips 1206838800 (zone.daysAfter ⟨1206754199, 1500000000⟩ 1) ∧
      (zone.daysAfter ⟨1206754199, 1500000000⟩ 1).under (zone.offsetAt (1206838800 - 1)) =
        ⟨1206840599, 1500000000⟩ ∧
      (nightlyInTunis ⟨1206754199, 1500000000⟩).occurrence? 1 = some (some ⟨1206840600, 500000000⟩) := by
  obtain ⟨zone, known, shown, _, before, after⟩ := tunis_puts_clocks_forward
  have later : zone.daysAfter ⟨1206754199, 1500000000⟩ 1 = ⟨⟨1206844199, 1500000000⟩⟩ := by
    simp [Zone.daysAfter, Zone.toLocal, shown, LocalTime.later]
  have occurs : (nightlyInTunis ⟨1206754199, 1500000000⟩).occurrence? 1 =
      some (some ⟨1206840600, 500000000⟩) := by
    decide +kernel
  refine ⟨zone, known, ?_, ?_, occurs⟩
  · rw [later]
    constructor
    · simp [before]
    · simp [after]
  · simp [later, before, LocalTime.under]

/-! ## Firings one after the other -/

/-- Under a later index a later firing is pending, unless the index is the next, the period one day, and
the day on which the earlier firing should be is skipped. -/
theorem Placed.next_lt (placed : t.Placed) (placed' : u.Placed)
    (plan : (Trigger.simpleTimer u).plan = (Trigger.simpleTimer t).plan) (days : t.unit = .days)
    (known : t.zone? = some zone) (next : t.next? = some a) (next' : u.next? = some b)
    (before : t.index < u.index) :
    a < b ∨ a = b ∧ t.period = 1 ∧ u.index = t.index + 1 ∧
      zone.SkipsDay (zone.daysAfter t.start t.index) := by
  have forward := placed.bounded.1
  have positive := placed.period
  have occurs' : t.occurrence? u.index = some (some b) := by
    have occurs := placed'.later b next' (by omega)
    have same := Trigger.occurrence_of_plan plan u.index
    exact same.symm.trans occurs
  have found' := instantOf_occurrence days known occurs'
  have apart : t.period * t.index + t.period ≤ t.period * u.index := by
    have product := Int.mul_le_mul_of_nonneg_left (Int.add_one_le_of_lt before) (Int.le_of_lt positive)
    rw [Int.mul_add, Int.mul_one] at product
    exact product
  by_cases zero : t.index = 0
  · -- the first firing is the start itself, which shows as its local time
    rw [placed.first a next zero]
    rw [zero, Int.mul_zero] at apart
    refine .inl (.inl (Zone.lt_instantOf rfl ?_ placed.valid found'))
    simp only [Zone.daysAfter, LocalTime.later]
    omega
  · have found := instantOf_occurrence days known (placed.later a next zero)
    have later : (zone.daysAfter t.start (t.period * t.index)).reading.second + 86400 ≤
        (zone.daysAfter t.start (t.period * u.index)).reading.second := by
      simp only [Zone.daysAfter, LocalTime.later]
      omega
    rcases Zone.instantOf_lt later rfl placed.valid found found' with order | ⟨same, nextDay, skipped⟩
    · exact .inl order
    · simp only [Zone.daysAfter, LocalTime.later] at nextDay
      obtain single : t.period = 1 := by omega
      rw [single, Int.one_mul] at skipped nextDay
      rw [Int.one_mul] at nextDay
      exact .inr ⟨same, single, by omega, skipped⟩

/-- A daily firing on a day that is skipped is at the instant of the one after it, outside leap seconds. -/
theorem Placed.next_eq (placed : t.Placed) (placed' : u.Placed)
    (plan : (Trigger.simpleTimer u).plan = (Trigger.simpleTimer t).plan) (days : t.unit = .days)
    (known : t.zone? = some zone) (plain : t.start.isLeap = false) (single : t.period = 1)
    (next : t.next? = some a) (next' : u.next? = some b) (following : u.index = t.index + 1)
    (skipped : zone.SkipsDay (zone.daysAfter t.start t.index)) : a = b := by
  have forward := placed.bounded.1
  have later : t.index ≠ 0 := by
    intro first
    obtain ⟨_, skips, _⟩ := skipped
    apply skips.not_shown t.start
    rw [first]
    simp [Zone.daysAfter, LocalTime.later]
  have occurs' : t.occurrence? u.index = some (some b) :=
    (Trigger.occurrence_of_plan plan u.index).symm.trans (placed'.later b next' (by omega))
  have found := instantOf_occurrence days known (placed.later a next later)
  have found' := instantOf_occurrence days known occurs'
  have dayAfter : zone.daysAfter t.start (t.period * u.index) =
      (zone.daysAfter t.start t.index).later 86400 := by
    rw [single, following, Int.one_mul]
    simp only [Zone.daysAfter, LocalTime.later, LocalTime.mk.injEq, Instant.mk.injEq, and_true]
    omega
  rw [single, Int.one_mul] at found
  rw [dayAfter] at found'
  exact skipped.instantOf_eq plain placed.valid found found'

end SimpleTimer

/-- What has the plan of a simple timer is one with the same start, period and zone. -/
theorem Trigger.timer_of_plan {t : Trigger} {made : SimpleTimer}
    (plan : t.plan = (simpleTimer made).plan) :
    ∃ s, t = .simpleTimer s ∧ s.start = made.start ∧ s.period = made.period ∧ s.unit = made.unit ∧
      s.zoneName = made.zoneName := by
  cases t with
  | pointInTime _ => cases plan
  | interval _ => cases plan
  | simpleTimer s =>
    simp only [Trigger.plan, simpleTimer.injEq, SimpleTimer.mk.injEq] at plan
    exact ⟨s, rfl, plan.1, plan.2.1, plan.2.2.1, plan.2.2.2.2.2.1⟩

/-- The firings taken from a timer that counts in days come one after the other, in every run that has an
answer; and it has one if the start shows as a local time. Two firings coincide only if they are a day apart
on a clock that is put forward by a whole day over the earlier of them, and then they do unless the start is
within a leap second. What the zone data must have for this (`Zone.steady`, and the release of
`Zone.Table`) is part of the zones. -/
theorem SimpleTimer.daily_firings_come_in_order {start : Instant} {period repetitions : Int}
    {stop? : Option Instant} {zoneName : String} {made : Trigger} {calls : List Trigger.Call}
    (created : Trigger.newSimpleTimer start period .days repetitions stop? zoneName = .ok made)
    (valid : start.nano < 2 * nanosPerSecond) (takes : ∀ call ∈ calls, call = .take) :
    ∃ zone, Zone.named? zoneName = some zone ∧
      ((zone.toLocal start).reading.inRange = true →
        ∃ taken after, made.run calls = some (taken, after)) ∧
      ∀ taken after, made.run calls = some (taken, after) →
        ∀ (i j : Nat) a b, i < j → (j : Int) ≤ maxInt32 → taken[i]? = some a → taken[j]? = some b →
          (a < b ∨ a = b ∧ period = 1 ∧ j = i + 1 ∧ zone.SkipsDay (zone.daysAfter start i)) ∧
          (start.isLeap = false → period = 1 → j = i + 1 → zone.SkipsDay (zone.daysAfter start i) →
            a = b) := by
  have begun : made.Made := .simpleTimer created valid
  obtain ⟨zone, known⟩ := Trigger.newSimpleTimer_zone created
  obtain ⟨placed, zero, _⟩ := begun.placed
  have planned := Trigger.newSimpleTimer_start created
  refine ⟨zone, known, ?_, ?_⟩
  · intro shown
    refine placed.run_answers ?_ calls
    rw [planned]
    simp [Trigger.startShows, SimpleTimer.startShows, SimpleTimer.zone?, known, shown]
  intro taken after ran i j a b before small held held'
  obtain ⟨t, first, plan, index, next⟩ := placed.pending_of_taken takes ran held (by omega)
  obtain ⟨u, second, plan', index', next'⟩ := placed.pending_of_taken takes ran held' (by omega)
  rw [planned] at plan plan'
  obtain ⟨t, rfl, began, every, unit, name⟩ := Trigger.timer_of_plan plan
  obtain ⟨u, rfl, _⟩ := Trigger.timer_of_plan plan'
  cases first with
  | simpleTimer first =>
    cases second with
    | simpleTimer second =>
      change t.index = made.index + i at index
      change u.index = made.index + j at index'
      have zoned : t.zone? = some zone := by
        rw [SimpleTimer.zone?, name]
        exact known
      rw [zero, Int.zero_add] at index index'
      change t.start = start at began
      have samePlan := plan'.trans plan.symm
      refine ⟨?_, ?_⟩
      · have order := first.next_lt second samePlan unit zoned next next' (by omega)
        rw [every, began, index] at order
        rcases order with order | ⟨same, single, following, skipped⟩
        · exact .inl order
        · exact .inr ⟨same, single, by omega, skipped⟩
      · intro plain single following skipped
        rw [← began] at plain skipped
        rw [← index] at skipped
        exact first.next_eq second samePlan unit zoned plain (every.trans single) next next' (by omega)
          skipped

/-- Ten o'clock every day in Apia, from 28 December 2011. -/
def SimpleTimer.tenInApia : SimpleTimer :=
  ⟨⟨1325102400, 0⟩, 1, .days, -1, none, "Pacific/Apia", some ⟨1325102400, 0⟩, 0, false⟩

theorem SimpleTimer.tenInApia_runs :
    Trigger.newSimpleTimer ⟨1325102400, 0⟩ 1 .days (-1) none "Pacific/Apia" =
      .ok (.simpleTimer tenInApia) ∧
    (Trigger.simpleTimer tenInApia).run [.take, .take, .take, .take] =
      some ([⟨1325102400, 0⟩, ⟨1325188800, 0⟩, ⟨1325275200, 0⟩, ⟨1325275200, 0⟩],
        .simpleTimer { tenInApia with index := 4, next? := some ⟨1325361600, 0⟩ }) := by
  decide +kernel

/-- On the two days before New Year's Eve the firings are a day apart. The first of them is on a day that
there was not in Apia, and so at the instant of the firing after it. -/
theorem SimpleTimer.daily_firings_come_in_order_in_apia :
    (⟨1325188800, 0⟩ : Instant) < ⟨1325275200, 0⟩ ∧ ∃ zone, Zone.named? "Pacific/Apia" = some zone ∧
      zone.SkipsDay (zone.daysAfter ⟨1325102400, 0⟩ 2) := by
  obtain ⟨created, ran⟩ := tenInApia_runs
  have takes : ∀ call ∈ [Trigger.Call.take, .take, .take, .take], call = .take := by decide
  obtain ⟨zone, known, _, order⟩ := daily_firings_come_in_order created (by decide) takes
  have order := order _ _ ran
  refine ⟨?_, zone, known, ?_⟩
  · rcases (order 1 2 _ _ (by decide) (by decide) rfl rfl).1 with before | ⟨same, _⟩
    · exact before
    · exact absurd same (by decide)
  · rcases (order 2 3 _ _ (by decide) (by decide) rfl rfl).1 with before | ⟨_, _, _, skipped⟩
    · exact absurd before (by decide)
    · exact skipped

/-- There was no 30 December in Apia: the third and the fourth firing are at one instant. -/
theorem SimpleTimer.skipped_days_fire_twice :
    Trigger.newSimpleTimer ⟨1325102400, 0⟩ 1 .days (-1) none "Pacific/Apia" =
      .ok (.simpleTimer tenInApia) ∧
    ∃ taken after, (Trigger.simpleTimer tenInApia).run [.take, .take, .take, .take] =
      some (taken, after) ∧ taken[2]? = some ⟨1325275200, 0⟩ ∧ taken[3]? = some ⟨1325275200, 0⟩ := by
  obtain ⟨created, ran⟩ := tenInApia_runs
  exact ⟨created, _, _, ran, rfl, rfl⟩

end Punctual
