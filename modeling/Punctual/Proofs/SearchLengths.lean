import Punctual.Proofs.TimerSkips

/-!
The length of a search. To skip a missed firing, a simple timer guesses an index and goes on from there,
one occurrence after another. However far the threshold lies, it goes at most four indices further: the
guess is at most two nominal periods before the threshold, and an occurrence counted in days is less than
two days before its nominal place, because local time is less than a day from UTC.

The guess measures time by differences, and a difference can leave out the leap second in which it begins
or ends. For each of them the search begins a second too early, and a second is many short periods. The
search still ends, further on by as many indices as periods begin in what was left out.
-/
namespace Punctual

/-! ## Leap seconds in differences -/

namespace Instant

variable {a t : Instant}

/-- Nanoseconds since 1970; an instant in a leap second counts like one in the second before it. -/
def place (t : Instant) : Int := t.toNanos - t.leapNanos

theorem place_plain (plain : t.isLeap = false) : t.place = t.toNanos := by
  simp [place, leapNanos, plain]

theorem place_leap (leap : t.isLeap = true) : t.place = t.toNanos - nanosPerSecond := by
  simp [place, leapNanos, leap]

theorem place_ofNanos (n : Int) : (ofNanos n).place = n := by
  rw [place_plain (ofNanos_plain n), toNanos_ofNanos]

/-- Whole seconds move the place by as much. -/
theorem place_sameNano (t : Instant) (second : Int) :
    (⟨second, t.nano⟩ : Instant).place = t.place + (second - t.second) * nanosPerSecond := by
  have leap : leapNanos ⟨second, t.nano⟩ = t.leapNanos := rfl
  simp only [place, leap, toNanos]
  ring

theorem place_lt (valid : a.nano < 2 * nanosPerSecond) (before : a < t) : a.place < t.toNanos := by
  cases leap : a.isLeap with
  | false =>
    have short := isLeap_eq_false.mp leap
    rw [place_plain leap]
    simp only [toNanos, nanosPerSecond, lt_def] at short before ⊢
    omega
  | true =>
    rw [place_leap leap]
    simp only [toNanos, nanosPerSecond, lt_def] at valid before ⊢
    omega

/-- A move takes the place along by no less; by more only if it goes back out of a leap second. -/
theorem le_place_shift (t : Instant) (length : Int) : t.place + length ≤ (t.shift length).place := by
  cases leap : t.isLeap with
  | false => rw [shift_eq_ofNanos leap, place_ofNanos, place_plain leap]
  | true =>
    have second : (0 : Int) ≤ nanosPerSecond := by decide
    rw [place_leap leap, shift, if_pos leap]
    split
    · rw [place_ofNanos]
    split
    · have stays : isLeap ⟨t.second, (t.nano + length).toNat⟩ = true := by
        simp only [isLeap, decide_eq_true_eq]
        omega
      rw [place_leap stays]
      simp only [toNanos]
      omega
    · rw [place_ofNanos]
      omega

/-- How many leap seconds the length of time between two instants leaves out. The one in which it begins
is counted only if it ends at a later time of day, the one in which it ends unless that is at an earlier
time of day. -/
def leftOut (t earlier : Instant) : Nat :=
  (if earlier.isLeap ∧ t.second % 86400 ≤ earlier.second % 86400 then 1 else 0) +
    if t.isLeap ∧ t.second % 86400 < earlier.second % 86400 then 1 else 0

theorem leftOut_le (t earlier : Instant) : t.leftOut earlier ≤ 2 := by
  unfold leftOut
  split <;> split <;> omega

/-- With what it leaves out, the length of time is that from the place of the earlier instant. -/
theorem since_add_leftOut (t earlier : Instant) :
    t.since earlier + t.leftOut earlier * nanosPerSecond = t.toNanos - earlier.place := by
  simp only [since, leftOut, place, leapNanos, nanosPerSecond]
  rcases Int.lt_trichotomy (earlier.second % 86400) (t.second % 86400) with later | same | sooner
  · have onward : ¬ t.second % 86400 ≤ earlier.second % 86400 := by omega
    have onward' : ¬ t.second % 86400 < earlier.second % 86400 := by omega
    simp only [later, onward, onward', ↓reduceIte, and_false]
    split <;> omega
  · simp only [same, Int.lt_irrefl, Int.le_refl, ↓reduceIte, and_true, and_false]
    split <;> omega
  · have back : ¬ earlier.second % 86400 < t.second % 86400 := by omega
    have back' : t.second % 86400 ≤ earlier.second % 86400 := by omega
    simp only [sooner, back, back', ↓reduceIte, and_true]
    split <;> split <;> omega

end Instant

/-- A local time is shown less than a day before UTC shows it. -/
theorem Zone.place_instantOf {z : Zone} {l : LocalTime} {t : Instant} (shown : z.instantOf? l = some t) :
    l.reading.place ≤ t.place + 86399 * nanosPerSecond := by
  unfold instantOf? at shown
  split at shown
  · rename_i offset first
    have bounded := offsetsShowing_bounded first
    dsimp only at shown
    split at shown <;> cases shown
    have placed := l.reading.place_sameNano (l.reading.second - offset)
    simp only [nanosPerSecond] at placed ⊢
    omega
  · simp only [↓do_eq_some_iff] at shown
    obtain ⟨dayBefore, _, offset, first, moved⟩ := shown
    have bounded := offsetsShowing_bounded first
    obtain ⟨rfl, _⟩ := Instant.shift?_eq_some moved
    have lower := l.reading.le_place_shift (-offset * nanosPerSecond)
    simp only [nanosPerSecond] at lower ⊢
    omega

namespace SimpleTimer

variable {t : SimpleTimer} {instant threshold current : Instant} {k first last : Int} {zone : Zone}

/-! ## Occurrences past their nominal places -/

theorem daysAfterStart_place (occurs : t.daysAfterStart? zone k = some (some instant)) :
    t.start.place + (k * 86400 - 172798) * nanosPerSecond ≤ instant.place := by
  obtain ⟨_, forward, later, moved, shown⟩ := daysAfterStart_some occurs
  have near := Zone.place_instantOf shown
  have bounded := zone.offsetAt_bounded t.start.second
  unfold Zone.daysLater? at moved
  dsimp only at moved
  split at moved <;> cases moved
  simp only [Zone.toLocal] at near
  rw [Instant.place_sameNano] at near
  simp only [nanosPerSecond] at near ⊢
  omega

/-- A period is no shorter than its nominal length, which 64 bits may cut. -/
theorem nominalMs_le (positive : 0 < t.period) : t.nominalMs ≤ t.period * t.unit.length := by
  have least := one_le_period positive
  have low : minInt64 ≤ 0 := by decide
  unfold nominalMs TimeUnit.toMillis? toInt64?
  split
  · exact Int.max_le.mpr ⟨Int.le_refl _, least⟩
  · rw [Option.getD_none]
    exact Int.max_le.mpr ⟨by omega, least⟩

theorem le_nominalMs_days (positive : 0 < t.period) (days : t.unit = .days) :
    86400000 ≤ t.nominalMs := by
  rcases nominalMs_cases positive with nominal | longest
  · rw [nominal, length_days days]
    omega
  · rw [longest]
    decide

/-- An occurrence comes no earlier than so many nominal periods after the start, save that one counted in
days may be early by as much as clocks differ, which is less than two days. -/
theorem Placed.occurrence_place (placed : t.Placed) (forward : 0 ≤ k)
    (occurs : t.occurrence? k = some (some instant)) :
    t.start.place + k * t.nominalMs * nanosPerMilli ≤
      instant.place + if t.unit = .days then 172798 * nanosPerSecond else 0 := by
  have shorter := Int.mul_le_mul_of_nonneg_left (nominalMs_le placed.period) forward
  by_cases days : t.unit = .days
  · obtain ⟨zone, _, shown⟩ := occurrence_days days occurs
    have near := daysAfterStart_place shown
    have counted : k * (t.period * t.unit.length) = t.period * k * 86400000 := by
      rw [length_days days]
      ring
    rw [if_pos days]
    simp only [nanosPerSecond, nanosPerMilli] at near ⊢
    omega
  · obtain ⟨rfl, _⟩ := Instant.shift?_eq_some (occurrence_fixed days occurs)
    have moved := t.start.le_place_shift (t.period * k * t.unit.length * nanosPerMilli)
    have counted : k * (t.period * t.unit.length) = t.period * k * t.unit.length := by ring
    rw [if_neg days]
    simp only [nanosPerMilli] at moved ⊢
    omega

/-! ## The search -/

/-- The search goes on from an index: the repetitions leave a firing with it, whose occurrence is before
the threshold, and there are larger indices. -/
structure GoesOn (t : SimpleTimer) (threshold : Instant) (k : Int) : Prop where
  granted : t.isExhausted k = false
  early : ∃ instant, t.occurrence? k = some (some instant) ∧ instant < threshold
  smaller : k < maxInt32

/-- A search from one index that ends at another: it goes on from each one in between, and not from the
last. -/
structure Searches (t : SimpleTimer) (threshold : Instant) (first last : Int) : Prop where
  onward : first ≤ last
  goesOn : ∀ k, first ≤ k → k < last → t.GoesOn threshold k
  ends : ¬ t.GoesOn threshold last

/-- Every search ends somewhere. It answers where it ended, unless an occurrence there has no answer. -/
theorem exists_searches {more : Nat} (largest : first + more = maxInt32) :
    ∃ last, t.Searches threshold first last ∧
      ∀ result, t.search? threshold more first = some result → result.1 = last := by
  fun_induction search? t threshold more first with
  | case1 more first exhausted =>
    refine ⟨first, ⟨Int.le_refl _, fun k => by omega, fun goes => ?_⟩, by rintro _ ⟨⟩; rfl⟩
    cases exhausted.symm.trans goes.granted
  | case2 more first granted broken =>
    refine ⟨first, ⟨Int.le_refl _, fun k => by omega, fun goes => ?_⟩, by rintro _ ⟨⟩⟩
    obtain ⟨_, occurs, _⟩ := goes.early
    cases broken.symm.trans occurs
  | case3 more first granted ended =>
    refine ⟨first, ⟨Int.le_refl _, fun k => by omega, fun goes => ?_⟩, by rintro _ ⟨⟩; rfl⟩
    obtain ⟨_, occurs, _⟩ := goes.early
    cases ended.symm.trans occurs
  | case4 more first granted instant occurs reached =>
    refine ⟨first, ⟨Int.le_refl _, fun k => by omega, fun goes => ?_⟩, by rintro _ ⟨⟩; rfl⟩
    obtain ⟨_, same, missed⟩ := goes.early
    cases occurs.symm.trans same
    exact not_le.mpr missed reached
  | case5 first granted instant occurs missed =>
    refine ⟨first, ⟨Int.le_refl _, fun k => by omega, fun goes => ?_⟩, by rintro _ ⟨⟩; rfl⟩
    have smaller := goes.smaller
    omega
  | case6 first granted instant occurs missed more ih =>
    obtain ⟨last, ⟨onward, goesOn, ends⟩, answers⟩ := ih (by omega)
    refine ⟨last, ⟨by omega, fun k begun before => ?_, ends⟩, answers⟩
    by_cases here : k = first
    · exact here ▸ ⟨by simpa using granted, ⟨instant, occurs, not_le.mp missed⟩, by omega⟩
    · exact goesOn k (by omega) before

/-- The search for a threshold begins less than two nominal periods before it. -/
theorem since_lt_guess (t : SimpleTimer) (threshold : Instant)
    (smaller : t.searchStart threshold < maxInt32) :
    threshold.since t.start < (t.searchStart threshold + 2) * t.nominalMs * nanosPerMilli := by
  have milli : (0 : Int) < nanosPerMilli := by decide
  have positive := t.nominalMs_pos
  have cut := Int.lt_tdiv_add_one_mul_self (threshold.since t.start) milli
  have cut' := Int.lt_tdiv_add_one_mul_self ((threshold.since t.start).tdiv nanosPerMilli) positive
  have guessed : (((threshold.since t.start).tdiv nanosPerMilli).tdiv t.nominalMs - 1) ≤
      t.searchStart threshold := by
    unfold searchStart at smaller ⊢
    dsimp only at smaller ⊢
    generalize ((threshold.since t.start).tdiv nanosPerMilli).tdiv t.nominalMs - 1 = guess at smaller ⊢
    unfold toInt32? at smaller ⊢
    split at smaller
    · rename_i fits
      rw [if_pos fits]
      exact Int.le_max_left ..
    · simp only [Option.getD_none] at smaller
      omega
  have whole : (threshold.since t.start).tdiv nanosPerMilli <
      (t.searchStart threshold + 2) * t.nominalMs :=
    Int.lt_of_lt_of_le cut' (Int.mul_le_mul_of_nonneg_right (by omega) (Int.le_of_lt positive))
  exact Int.lt_of_lt_of_le cut (Int.mul_le_mul_of_nonneg_right (by omega) (Int.le_of_lt milli))

/-- The search goes on only as far beyond two periods from the guess as leap seconds that are left out and
the drift of days account for. -/
theorem Placed.goesOn_lt (placed : t.Placed) (begun : t.searchStart threshold ≤ k)
    (goes : t.GoesOn threshold k) :
    (k - t.searchStart threshold - 2) * t.nominalMs * nanosPerMilli <
      threshold.leftOut t.start * nanosPerSecond +
        if t.unit = .days then 172798 * nanosPerSecond else 0 := by
  obtain ⟨instant, occurs, missed⟩ := goes.early
  have forward : 0 ≤ k := by
    have onward : t.index ≤ t.searchStart threshold := Int.le_max_right ..
    have begun := placed.bounded.1
    omega
  have smaller := goes.smaller
  have nominal := placed.occurrence_place forward occurs
  have valid := (occurrence_valid placed.valid occurs).nano
  have early := Instant.place_lt valid missed
  have measured := threshold.since_add_leftOut t.start
  have guess := t.since_lt_guess threshold (by omega)
  have spread : (k - t.searchStart threshold - 2) * t.nominalMs * nanosPerMilli =
      k * t.nominalMs * nanosPerMilli -
        (t.searchStart threshold + 2) * t.nominalMs * nanosPerMilli := by
    ring
  omega

/-- Counted in days, at most two leap seconds and less than two days of drift make less than two
periods. -/
theorem Placed.searches_days (placed : t.Placed) (days : t.unit = .days)
    (searches : t.Searches threshold (t.searchStart threshold) last) :
    last ≤ t.searchStart threshold + 4 := by
  by_contra further
  have onward := searches.onward
  have goes := searches.goesOn (last - 1) (by omega) (by omega)
  have bound := placed.goesOn_lt (by omega) goes
  have long := le_nominalMs_days placed.period days
  have left := threshold.leftOut_le t.start
  have twice : 2 * t.nominalMs ≤ (last - 1 - t.searchStart threshold - 2) * t.nominalMs :=
    Int.mul_le_mul_of_nonneg_right (by omega) (by omega)
  rw [if_pos days] at bound
  simp only [nanosPerSecond, nanosPerMilli] at bound
  omega

/-- Counted in units of fixed length, the search goes two indices further, and one for each period that
begins in what is left out. -/
theorem Placed.searches_fixed (placed : t.Placed) (fixed : t.unit ≠ .days)
    (searches : t.Searches threshold (t.searchStart threshold) last) :
    (last - t.searchStart threshold - 3) * t.nominalMs < 1000 * threshold.leftOut t.start := by
  have positive := t.nominalMs_pos
  have onward := searches.onward
  by_cases still : last = t.searchStart threshold
  · have back : (last - t.searchStart threshold - 3) * t.nominalMs = -3 * t.nominalMs := by
      rw [still]
      ring
    omega
  · have goes := searches.goesOn (last - 1) (by omega) (by omega)
    have bound := placed.goesOn_lt (by omega) goes
    have same : last - 1 - t.searchStart threshold - 2 = last - t.searchStart threshold - 3 := by omega
    rw [if_neg fixed, same] at bound
    simp only [nanosPerSecond, nanosPerMilli] at bound
    omega

/-- Counted in days, or in periods that are no shorter than half of what is left out, the search goes four
indices further at most. -/
theorem Placed.searches_four (placed : t.Placed)
    (searches : t.Searches threshold (t.searchStart threshold) last)
    (long : t.unit = .days ∨ 500 * threshold.leftOut t.start ≤ t.nominalMs) :
    last ≤ t.searchStart threshold + 4 := by
  by_cases days : t.unit = .days
  · exact placed.searches_days days searches
  · by_contra further
    have bound := placed.searches_fixed days searches
    have periods := long.resolve_left days
    have positive := t.nominalMs_pos
    have twice : 2 * t.nominalMs ≤ (last - t.searchStart threshold - 3) * t.nominalMs :=
      Int.mul_le_mul_of_nonneg_right (by omega) (by omega)
    omega

/-- In no case does the search go further than over the milliseconds of two seconds. -/
theorem Placed.searches_two_seconds (placed : t.Placed)
    (searches : t.Searches threshold (t.searchStart threshold) last) :
    last ≤ t.searchStart threshold + 2002 := by
  by_cases days : t.unit = .days
  · have near := placed.searches_days days searches
    omega
  · by_contra further
    have bound := placed.searches_fixed days searches
    have left := threshold.leftOut_le t.start
    have positive := t.nominalMs_pos
    have steps : (last - t.searchStart threshold - 3) * 1 ≤
        (last - t.searchStart threshold - 3) * t.nominalMs :=
      Int.mul_le_mul_of_nonneg_left (by omega) (by omega)
    omega

end SimpleTimer

/-- However far a simple timer has come and however far the threshold lies, the search that skips a missed
firing ends, and it ends at most four indices from where it begins. Only in units of fixed length can it go
further, if the time from the start to the threshold leaves out leap seconds and half of what it leaves out
is longer than a period. Even then it goes no more than two indices further than periods begin in what is
left out, hence never more than 2002. The skip answers where the search ended; it has an answer if the start
shows as a local time, wherever days are counted. That local times are less than a day from UTC is part of
the zones, which are those of `Zone.Table`. -/
theorem SimpleTimer.searches_are_short {start threshold current : Instant} {period : Int}
    {unit : TimeUnit} {repetitions : Int} {stop? : Option Instant} {zoneName : String}
    {made : Trigger} {t : SimpleTimer} {calls : List Trigger.Call} {taken : List Instant}
    (created : Trigger.newSimpleTimer start period unit repetitions stop? zoneName = .ok made)
    (valid : start.nano < 2 * nanosPerSecond) (ran : made.run calls = some (taken, .simpleTimer t))
    (next : t.next? = some current) (missed : current < threshold) :
    ∃ last, t.Searches threshold (t.searchStart threshold) last ∧
      (t.startShows = true → ∃ after, t.skipUntil? threshold = some after) ∧
      (∀ after, t.skipUntil? threshold = some after → after.index = last) ∧
      (unit = .days ∨ 500 * threshold.leftOut start ≤ t.nominalMs →
        last ≤ t.searchStart threshold + 4) ∧
      (unit ≠ .days →
        (last - t.searchStart threshold - 3) * t.nominalMs < 1000 * threshold.leftOut start) ∧
      last ≤ t.searchStart threshold + 2002 := by
  have begun : made.Made := .simpleTimer created valid
  have placed := begun.placed.1.run_placed ran
  have plan := Trigger.run_plan ran
  obtain ⟨rfl, rfl⟩ : t.start = start ∧ t.unit = unit := by
    rw [Trigger.newSimpleTimer_start created] at plan
    cases plan
    exact ⟨rfl, rfl⟩
  cases placed with
  | simpleTimer placed =>
    have within : t.searchStart threshold ≤ maxInt32 :=
      Int.max_le.mpr ⟨toInt32_getD_le _, placed.bounded.2⟩
    obtain ⟨last, searches, answers⟩ : ∃ last, t.Searches threshold (t.searchStart threshold) last ∧
        ∀ result, t.found? threshold = some result → result.1 = last :=
      exists_searches (by omega)
    refine ⟨last, searches, fun shows => skip_answers shows threshold, ?_, placed.searches_four searches,
      fun fixed => placed.searches_fixed fixed searches, placed.searches_two_seconds searches⟩
    intro after skipped
    rw [skip_missed next missed] at skipped
    obtain ⟨result, found, rfl⟩ := Option.map_eq_some_iff.mp skipped
    exact answers result found

/-- A firing every millisecond. -/
def SimpleTimer.everyMilli : SimpleTimer :=
  ⟨⟨0, 0⟩, 1, .millis, -1, none, "UTC", some ⟨0, 0⟩, 0, false⟩

/-- Twenty days of firings each millisecond are passed over in four steps or less. -/
theorem SimpleTimer.searches_are_short_after_twenty_days :
    everyMilli.searchStart ⟨1728000, 0⟩ = 1727999999 ∧
      ∃ after, everyMilli.skipUntil? ⟨1728000, 0⟩ = some after ∧
        1727999999 ≤ after.index ∧ after.index ≤ 1728000003 := by
  have created : Trigger.newSimpleTimer ⟨0, 0⟩ 1 .millis (-1) none "UTC" =
      .ok (.simpleTimer everyMilli) := by
    decide
  have ran : (Trigger.simpleTimer everyMilli).run [] = some ([], .simpleTimer everyMilli) := rfl
  have begins : everyMilli.searchStart ⟨1728000, 0⟩ = 1727999999 := by decide
  have missed : (⟨0, 0⟩ : Instant) < ⟨1728000, 0⟩ := by decide
  obtain ⟨last, searches, answers, ends, short, _⟩ :=
    searches_are_short created (by decide) ran rfl missed
  obtain ⟨after, skipped⟩ := answers rfl
  have near := short (.inr (by decide))
  have onward := searches.onward
  rw [begins] at near onward
  rw [← ends after skipped] at near onward
  exact ⟨begins, after, skipped, onward, near⟩

/-- Ten firings a second from a minute before midnight. For the leap second at the end of the next day's
first minute the search begins eleven periods before that leap second is over, and goes on over all of
them. -/
theorem SimpleTimer.searches_lag_behind_leap_seconds :
    let t : SimpleTimer := ⟨⟨86340, 0⟩, 100, .millis, -1, none, "UTC", some ⟨86340, 0⟩, 0, false⟩
    Trigger.newSimpleTimer ⟨86340, 0⟩ 100 .millis (-1) none "UTC" = .ok (.simpleTimer t) ∧
      t.searchStart ⟨86459, 1000000000⟩ = 1189 ∧
      (t.skipUntil? ⟨86459, 1000000000⟩).map (fun after => (after.index, after.next?)) =
        some (1200, some ⟨86460, 0⟩) := by
  decide

end Punctual
