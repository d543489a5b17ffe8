import Mathlib.Order.Bounds.Basic
import Punctual.Proofs.Instants
import Punctual.Proofs.Zones

/-!
The instants of local times. Changes of the offset are at least three days apart and move clocks by a day
at most, so at most one change is near a local time. Hence a zone shows each local time once, twice or
never; what it never shows lies in a gap, over which a change puts clocks forward, and the offset in force
a day before is the one just before that change.

Local times a day or more apart come in the order of their instants. They fall on one instant only where
clocks go forward by a whole day: what is skipped then is read as the same time of the next day.
-/
namespace Punctual

/-! ## Stretches of one offset -/

namespace OffsetChange

variable {offset first : Int} {changes : List OffsetChange} {last? : Option Int}

/-- From the first second on, one offset is in force for three days, or one until a change and another
from it on. -/
theorem inForce_stretch (steady : areSteady offset last? changes = true) (first : Int) :
    (∀ second, first ≤ second → second ≤ first + 3 * 86400 →
      inForce offset second changes = inForce offset first changes) ∨
    ∃ change, first < change ∧ change ≤ first + 3 * 86400 ∧
      (∀ second, first ≤ second → second < change →
        inForce offset second changes = inForce offset first changes) ∧
      (∀ second, change ≤ second → second ≤ first + 3 * 86400 →
        inForce offset second changes = inForce offset change changes) ∧
      inForce offset change changes - inForce offset first changes ≤ 86400 ∧
      inForce offset first changes - inForce offset change changes ≤ 86400 := by
  induction changes generalizing offset last? with
  | nil => exact .inl fun _ _ _ => rfl
  | cons c rest ih =>
    simp only [areSteady, Bool.and_eq_true, decide_eq_true_eq] at steady
    obtain ⟨⟨⟨_, moved⟩, _⟩, steady⟩ := steady
    have apart := apart_of_steady steady
    have onward : ∀ second, c.instant ≤ second →
        inForce offset second (c :: rest) = inForce c.offset second rest := by
      intro second reached
      rw [inForce, List.foldl_cons, if_pos reached]
      rfl
    have before : ∀ second, second < c.instant → inForce offset second (c :: rest) = offset := by
      intro second early
      apply inForce_before
      intro other member
      rcases List.mem_cons.mp member with rfl | member
      · exact early
      · have later := apart other member
        omega
    by_cases passed : c.instant ≤ first
    · rcases ih steady with still | ⟨change, after, within, early, late, moved⟩
      · refine .inl fun second reached near => ?_
        rw [onward second (by omega), onward first passed]
        exact still second reached near
      · refine .inr ⟨change, after, within, fun second reached near => ?_, fun second reached near => ?_, ?_⟩
        · rw [onward second (by omega), onward first passed]
          exact early second reached near
        · rw [onward second (by omega), onward change (by omega)]
          exact late second reached near
        · rw [onward first passed, onward change (by omega)]
          exact moved
    by_cases near : c.instant ≤ first + 3 * 86400
    · have still : ∀ second, c.instant ≤ second → second ≤ first + 3 * 86400 →
          inForce offset second (c :: rest) = c.offset := by
        intro second reached within
        rw [onward second reached]
        apply inForce_before
        intro other member
        have later := apart other member
        omega
      refine .inr ⟨c.instant, by omega, near, fun second _ early => ?_, fun second reached within => ?_, ?_⟩
      · rw [before second early, before first (by omega)]
      · rw [still second reached within, still c.instant (by omega) near]
      · rw [still c.instant (by omega) near, before first (by omega)]
        exact moved
    · refine .inl fun second reached within => ?_
      rw [before second (by omega), before first (by omega)]

end OffsetChange

/-- The offsets in force around a local time, from two days before to a day after it: one until a change,
and one from it on. Where there is no change the two are the same. -/
structure Zone.Around (z : Zone) (reading change before after : Int) : Prop where
  early : ∀ second, reading - 2 * 86400 ≤ second → second < change → z.offsetAt second = before
  late : ∀ second, change ≤ second → second ≤ reading + 86400 → z.offsetAt second = after
  inside : reading - 2 * 86400 < change
  forward : after - before ≤ 86400
  back : before - after ≤ 86400
  bounded : -86400 < before ∧ before < 86400
  bounded' : -86400 < after ∧ after < 86400

namespace Zone

theorem offsetAt_eq (z : Zone) (second : Int) :
    z.offsetAt second = OffsetChange.inForce z.initial second z.changes := rfl

theorem exists_around (z : Zone) (reading : Int) :
    ∃ change before after, z.Around reading change before after := by
  have bounded := z.offsetAt_bounded
  have stretch := OffsetChange.inForce_stretch z.steady (reading - 2 * 86400)
  simp only [← offsetAt_eq] at stretch
  rcases stretch with still | ⟨change, after, _, early, late, forward, back⟩
  · exact ⟨reading + 86401, z.offsetAt (reading - 2 * 86400), z.offsetAt (reading - 2 * 86400),
      fun second reached _ => still second reached (by omega), fun second reached _ => by omega,
      by omega, by omega, by omega, bounded _, bounded _⟩
  · exact ⟨change, z.offsetAt (reading - 2 * 86400), z.offsetAt change, early,
      fun second reached _ => late second reached (by omega), after, forward, back, bounded _, bounded _⟩

/-- Either side of the change has its offset. -/
theorem Around.cases {z : Zone} {reading change before after : Int}
    (near : z.Around reading change before after) (second : Int) (begun : reading - 2 * 86400 ≤ second)
    (ended : second ≤ reading + 86400) :
    second < change ∧ z.offsetAt second = before ∨ change ≤ second ∧ z.offsetAt second = after := by
  by_cases reached : change ≤ second
  · exact .inr ⟨reached, near.late second reached ended⟩
  · exact .inl ⟨by omega, near.early second begun (by omega)⟩

end Zone

/-! ## What a zone shows -/

/-- The instant of a local time read with an offset. -/
def LocalTime.under (l : LocalTime) (offset : Int) : Instant :=
  { l.reading with second := l.reading.second - offset }

/-- What a clock shows so many seconds later, if it is not changed. -/
def LocalTime.later (l : LocalTime) (seconds : Int) : LocalTime :=
  ⟨{ l.reading with second := l.reading.second + seconds }⟩

/-- A second has the offset of the span it lies in. -/
theorem OffsetSpan.offset_of_contains {start? : Option Int} {offset second : Int}
    {changes : List OffsetChange} {span : OffsetSpan}
    (steady : OffsetChange.areSteady offset start? changes = true)
    (member : span ∈ ofChanges start? offset changes) (contains : span.contains second = true) :
    start?.all (· ≤ second) = true ∧ OffsetChange.inForce offset second changes = span.offset := by
  induction changes generalizing start? offset with
  | nil =>
    obtain rfl := List.mem_singleton.mp member
    simp only [OffsetSpan.contains, Bool.and_eq_true] at contains
    exact ⟨contains.1, rfl⟩
  | cons c rest ih =>
    simp only [OffsetChange.areSteady, Bool.and_eq_true, decide_eq_true_eq] at steady
    obtain ⟨⟨_, apart⟩, steady⟩ := steady
    rcases List.mem_cons.mp member with rfl | member
    · simp only [OffsetSpan.contains, Option.all_some, Bool.and_eq_true, decide_eq_true_eq] at contains
      refine ⟨contains.1, OffsetChange.inForce_before fun other member => ?_⟩
      rcases List.mem_cons.mp member with rfl | member
      · exact contains.2
      · have later := OffsetChange.apart_of_steady steady other member
        omega
    · obtain ⟨begun, same⟩ := ih steady member
      simp only [Option.all_some, decide_eq_true_eq] at begun
      refine ⟨?_, ?_⟩
      · cases start? with
        | none => rfl
        | some start =>
          simp only [Option.all_some, decide_eq_true_eq] at apart ⊢
          omega
      · rw [OffsetChange.inForce, List.foldl_cons, if_pos begun]
        exact same

namespace Zone

variable {z : Zone} {l l' : LocalTime} {t t' first : Instant} {change offset : Int}

theorem toLocal_eq_iff : z.toLocal t = l ↔
    t.second + z.offsetAt t.second = l.reading.second ∧ t.nano = l.reading.nano := by
  obtain ⟨second, nano⟩ := t
  obtain ⟨reading, fraction⟩ := l
  simp [toLocal]

theorem toLocal_under : z.toLocal (l.under offset) = l ↔
    z.offsetAt (l.reading.second - offset) = offset := by
  rw [toLocal_eq_iff]
  simp only [LocalTime.under, and_true]
  omega

theorem eq_under (shown : z.toLocal t = l) : t = l.under (z.offsetAt t.second) := by
  obtain ⟨seconds, nanos⟩ := toLocal_eq_iff.mp shown
  exact Instant.eq_of_parts (by simp only [LocalTime.under]; omega) nanos

theorem offsetAt_of_mem (member : offset ∈ z.offsetsShowing l) : z.toLocal (l.under offset) = l := by
  obtain ⟨span, showing, rfl⟩ := List.mem_map.mp member
  obtain ⟨spanned, contains⟩ := List.mem_filter.mp showing
  exact toLocal_under.mpr (OffsetSpan.offset_of_contains z.steady spanned contains).2

/-- The offset under which a local time is shown first gives the earliest instant of it. -/
theorem head_offsetsShowing : (z.offsetsShowing l).head? = some offset ↔
    IsLeast { t | z.toLocal t = l } (l.under offset) := by
  have least : ∀ offset, (z.offsetsShowing l).head? = some offset →
      IsLeast { t | z.toLocal t = l } (l.under offset) := by
    intro offset head
    refine ⟨offsetAt_of_mem (List.mem_of_head? head), ?_⟩
    rintro other rfl
    obtain ⟨first, head', bound⟩ := z.first_showing other
    rw [head] at head'
    cases head'
    simp only [LocalTime.under, toLocal, Instant.le_def]
    omega
  constructor
  · exact least offset
  · intro earliest
    have shown : z.toLocal (l.under offset) = l := earliest.1
    obtain ⟨first, head, _⟩ := z.first_showing (l.under offset)
    rw [shown] at head
    have same := congrArg Instant.second ((least first head).unique earliest)
    simp only [LocalTime.under] at same
    rw [head, Option.some.injEq]
    omega

theorem head_offsetsShowing_none :
    (z.offsetsShowing l).head? = none ↔ ∀ t, z.toLocal t ≠ l := by
  constructor
  · rintro none t rfl
    obtain ⟨first, head, _⟩ := z.first_showing t
    rw [none] at head
    cases head
  · intro never
    cases head : (z.offsetsShowing l).head? with
    | none => rfl
    | some offset => exact absurd (offsetAt_of_mem (List.mem_of_head? head)) (never _)

/-- What is shown has a first instant. -/
theorem exists_isLeast (shown : z.toLocal t = l) : ∃ first, IsLeast { t | z.toLocal t = l } first := by
  subst shown
  obtain ⟨first, head, _⟩ := z.first_showing t
  exact ⟨_, head_offsetsShowing.mp head⟩

/-! ## Gaps -/

/-- Clocks are put forward over the local time: just before the change they had not come to it, and with
the change they are past it. -/
structure Skips (z : Zone) (change : Int) (l : LocalTime) : Prop where
  reached : change + z.offsetAt (change - 1) ≤ l.reading.second
  passed : l.reading.second < change + z.offsetAt change

/-- Clocks are put forward over the local time by a whole day. -/
def SkipsDay (z : Zone) (l : LocalTime) : Prop :=
  ∃ change, z.Skips change l ∧ z.offsetAt change = z.offsetAt (change - 1) + 86400

/-- A change that skips a local time is the one around it. -/
theorem Skips.around (skips : z.Skips change l) {around before after : Int}
    (near : z.Around l.reading.second around before after) :
    around = change ∧ z.offsetAt (change - 1) = before ∧ z.offsetAt change = after := by
  have reached := skips.reached
  have passed := skips.passed
  have bounded := z.offsetAt_bounded (change - 1)
  have bounded' := z.offsetAt_bounded change
  have sooner := near.cases (change - 1) (by omega) (by omega)
  have later := near.cases change (by omega) (by omega)
  omega

theorem Skips.not_shown (skips : z.Skips change l) : ∀ t, z.toLocal t ≠ l := by
  intro t shown
  obtain ⟨around, before, after, near⟩ := z.exists_around l.reading.second
  obtain ⟨rfl, sooner, later⟩ := skips.around near
  have reached := skips.reached
  have passed := skips.passed
  have bounded := z.offsetAt_bounded t.second
  have seconds := (toLocal_eq_iff.mp shown).1
  have side := near.cases t.second (by omega) (by omega)
  omega

/-- A local time is shown or skipped. -/
theorem shown_or_skipped (z : Zone) (l : LocalTime) :
    (∃ t, z.toLocal t = l) ∨ ∃ change, z.Skips change l := by
  obtain ⟨change, before, after, near⟩ := z.exists_around l.reading.second
  have bounded := near.bounded
  have bounded' := near.bounded'
  by_cases early : l.reading.second - before < change
  · exact .inl ⟨l.under before, toLocal_under.mpr (near.early _ (by omega) early)⟩
  by_cases late : change ≤ l.reading.second - after
  · exact .inl ⟨l.under after, toLocal_under.mpr (near.late _ late (by omega))⟩
  · refine .inr ⟨change, ?_, ?_⟩
    · rw [near.early (change - 1) (by omega) (by omega)]
      omega
    · rw [near.late change (by omega) (by omega)]
      omega

/-- Read with the offset before the gap, a skipped local time is moved forward by its length. -/
theorem Skips.toLocal_under (skips : z.Skips change l) :
    z.toLocal (l.under (z.offsetAt (change - 1))) =
      l.later (z.offsetAt change - z.offsetAt (change - 1)) := by
  obtain ⟨around, before, after, near⟩ := z.exists_around l.reading.second
  obtain ⟨rfl, sooner, later⟩ := skips.around near
  have reached := skips.reached
  have bounded := near.bounded
  have shown := near.late (l.reading.second - before) (by omega) (by omega)
  rw [toLocal_eq_iff]
  simp only [LocalTime.under, LocalTime.later, sooner, later, shown, and_true]
  omega

/-- A day before, clocks were not changed yet. -/
theorem Skips.dayBefore (skips : z.Skips change l) {m : LocalTime}
    (early : l.reading.second - 86400 ≤ m.reading.second)
    (late : m.reading.second ≤ l.reading.second - 86399) (shown : z.toLocal t = m) :
    t = m.under (z.offsetAt (change - 1)) := by
  obtain ⟨around, before, after, near⟩ := z.exists_around l.reading.second
  obtain ⟨rfl, sooner, later⟩ := skips.around near
  have passed := skips.passed
  have seconds := (toLocal_eq_iff.mp shown).1
  have bounded := z.offsetAt_bounded t.second
  rcases near.cases t.second (by omega) (by omega) with ⟨_, same⟩ | ⟨late, same⟩
  · rw [eq_under shown, sooner, same]
  · omega

theorem Skips.head_dayBefore (skips : z.Skips change l) {m : LocalTime}
    (early : m.reading.second = l.reading.second - 86400 ∨
      z.offsetAt change - z.offsetAt (change - 1) < 86400 ∧
        m.reading.second = l.reading.second - 86399) :
    (z.offsetsShowing m).head? = some (z.offsetAt (change - 1)) := by
  obtain ⟨around, before, after, near⟩ := z.exists_around l.reading.second
  obtain ⟨rfl, sooner, later⟩ := skips.around near
  have reached := skips.reached
  have passed := skips.passed
  have bounded := near.bounded
  have forward := near.forward
  have shown : z.offsetAt (m.reading.second - before) = before :=
    near.early _ (by omega) (by omega)
  rw [sooner]
  refine head_offsetsShowing.mpr ⟨Zone.toLocal_under.mpr shown, ?_⟩
  intro other (shown' : z.toLocal other = m)
  have same := skips.dayBefore (by omega) (by omega) shown'
  rw [same, sooner]

/-! ## The instant of a local time -/

theorem instantOf_shown (least : IsLeast { t | z.toLocal t = l } first) :
    z.instantOf? l = if first.inRange then some first else none := by
  have same := eq_under least.1
  rw [same] at least ⊢
  rw [instantOf?, head_offsetsShowing.mpr least]
  rfl

/-- A skipped local time is read with the offset before the change, as a move in time. Within a leap second
clocks must not be put forward by a whole day, as the day before begins a second late then. -/
theorem instantOf_skipped (skips : z.Skips change l) (valid : l.reading.nano < 2 * nanosPerSecond)
    (clear : l.reading.isLeap = false ∨ z.offsetAt change < z.offsetAt (change - 1) + 86400)
    (begun : Instant.firstSecond + 86400 ≤ l.reading.second)
    (ended : l.reading.second ≤ Instant.lastSecond) :
    z.instantOf? l = l.reading.shift? (-z.offsetAt (change - 1) * nanosPerSecond) := by
  obtain ⟨dayBefore, same, moved⟩ : ∃ dayBefore : Instant,
      l.reading.shift (-86400 * nanosPerSecond) = dayBefore ∧
      (dayBefore.second = l.reading.second - 86400 ∨
        z.offsetAt change < z.offsetAt (change - 1) + 86400 ∧
          dayBefore.second = l.reading.second - 86399) := by
    rcases clear with plain | short
    · exact ⟨_, Instant.shift_seconds plain (-86400), .inl (by dsimp only; omega)⟩
    · obtain ⟨dayBefore, same, _, second⟩ := Instant.shift_seconds_cases valid (-86400)
      exact ⟨dayBefore, same, by omega⟩
  have within : dayBefore.inRange = true := by
    simp only [Instant.inRange, Bool.and_eq_true, decide_eq_true_eq]
    omega
  have shifted : l.reading.shift? (-86400 * nanosPerSecond) = some dayBefore := by
    rw [Instant.shift?, same]
    exact if_pos within
  have head : (z.offsetsShowing ⟨dayBefore⟩).head? = some (z.offsetAt (change - 1)) :=
    skips.head_dayBefore (by dsimp only; omega)
  rw [instantOf?, head_offsetsShowing_none.mpr skips.not_shown]
  simp only [shifted, head, Option.bind_eq_bind, Option.bind_some]

/-- The instant of a local time is the first that shows it or, in a gap, found with the offset just
before the change. -/
theorem instantOf_cases (valid : l.reading.nano < 2 * nanosPerSecond) (found : z.instantOf? l = some t) :
    IsLeast { t | z.toLocal t = l } t ∨ ∃ change, z.Skips change l ∧
      t = l.reading.shift (-z.offsetAt (change - 1) * nanosPerSecond) := by
  rcases z.shown_or_skipped l with ⟨_, shown⟩ | ⟨change, skips⟩
  · obtain ⟨first, least⟩ := exists_isLeast shown
    rw [instantOf_shown least] at found
    split at found <;> cases found
    exact .inl least
  · refine .inr ⟨change, skips, ?_⟩
    rw [instantOf?, head_offsetsShowing_none.mpr skips.not_shown] at found
    obtain ⟨dayBefore, moved, found'⟩ := Option.bind_eq_some_iff.mp found
    obtain ⟨offset, head, resolved⟩ := Option.bind_eq_some_iff.mp found'
    obtain ⟨rfl, _⟩ := Instant.shift?_eq_some moved
    obtain ⟨rfl, _⟩ := Instant.shift?_eq_some resolved
    have shown := offsetAt_of_mem (List.mem_of_head? head)
    obtain ⟨_, same, _, seconds⟩ := Instant.shift_seconds_cases valid (-86400)
    rw [same] at shown
    have same := congrArg Instant.second (skips.dayBefore (by dsimp only; omega) (by dsimp only; omega) shown)
    simp only [LocalTime.under] at same
    obtain rfl : offset = z.offsetAt (change - 1) := by omega
    rfl

/-! ## Order -/

/-- What a zone shows a day later or more on an unchanged clock, comes later. -/
theorem lt_instantOf (shown : z.toLocal t = l) (later : l.reading.second + 86400 ≤ l'.reading.second)
    (valid : l'.reading.nano < 2 * nanosPerSecond) (found : z.instantOf? l' = some t') :
    t.second < t'.second := by
  have seconds := (toLocal_eq_iff.mp shown).1
  have bounded := z.offsetAt_bounded t.second
  obtain ⟨around, before, after, near⟩ := z.exists_around l'.reading.second
  by_contra sooner
  rcases instantOf_cases valid found with ⟨shown', _⟩ | ⟨change, skips, rfl⟩
  · -- clocks would have to be put back by more than a day in between
    have seconds' := (toLocal_eq_iff.mp shown').1
    have bounded' := z.offsetAt_bounded t'.second
    have back := near.back
    have here := near.cases t.second (by omega) (by omega)
    have there := near.cases t'.second (by omega) (by omega)
    omega
  · -- from the change on nothing before the end of the gap is shown
    obtain ⟨rfl, early, _⟩ := skips.around near
    obtain ⟨_, same, _, moved⟩ := Instant.shift_seconds_cases valid (-z.offsetAt (around - 1))
    rw [same] at sooner
    have reached := skips.reached
    have passed := skips.passed
    have bounds := near.bounded
    have here := near.cases t.second (by omega) (by omega)
    omega

/-- The instants of two local times a day or more apart come in their order, unless clocks are put
forward by a whole day over the earlier one, and the other is that one a day later. -/
theorem instantOf_lt (later : l.reading.second + 86400 ≤ l'.reading.second)
    (nanos : l.reading.nano = l'.reading.nano) (valid : l.reading.nano < 2 * nanosPerSecond)
    (found : z.instantOf? l = some t) (found' : z.instantOf? l' = some t') :
    t < t' ∨ t = t' ∧ l'.reading.second = l.reading.second + 86400 ∧ z.SkipsDay l := by
  rcases instantOf_cases valid found with ⟨shown, _⟩ | ⟨change, skips, rfl⟩
  · exact .inl (.inl (lt_instantOf shown later (nanos ▸ valid) found'))
  obtain ⟨around, before, after, near⟩ := z.exists_around l.reading.second
  obtain ⟨rfl, sooner, onward⟩ := skips.around near
  have reached := skips.reached
  have passed := skips.passed
  have bounds := near.bounded
  have bounds' := near.bounded'
  have forward := near.forward
  obtain ⟨moved, same, fraction, second⟩ :=
    Instant.shift_seconds_cases valid (-z.offsetAt (around - 1))
  rw [same]
  rcases instantOf_cases (nanos ▸ valid) found' with ⟨shown', _⟩ | ⟨change', skips', rfl⟩
  · obtain ⟨seconds', nanos'⟩ := toLocal_eq_iff.mp shown'
    have bounded' := z.offsetAt_bounded t'.second
    -- it is shown after the gap, by the offset in force then or, days later, by another
    have place : l'.reading.second - after ≤ t'.second ∨ l.reading.second + 86400 < t'.second := by
      by_cases near' : t'.second ≤ l.reading.second + 86400
      · have there := near.cases t'.second (by omega) near'
        omega
      · omega
    have order : moved ≤ t' := by
      rw [Instant.le_def]
      omega
    rcases order.lt_or_eq with before | whole
    · exact .inl before
    · have second' := congrArg Instant.second whole
      have nano' := congrArg Instant.nano whole
      exact .inr ⟨whole, by omega, around, skips, by omega⟩
  · -- the other one is skipped by a change days later
    obtain ⟨moved', same', _, second'⟩ :=
      Instant.shift_seconds_cases (nanos ▸ valid) (-z.offsetAt (change' - 1))
    rw [same']
    have reached' := skips'.reached
    have passed' := skips'.passed
    have bounded' := z.offsetAt_bounded change'
    have apart : l.reading.second + 86400 < change' := by
      by_contra near'
      have there := near.cases change' (by omega) (by omega)
      have there' := near.cases (change' - 1) (by omega) (by omega)
      omega
    refine .inl (.inl ?_)
    omega

/-- On a day that is skipped as a whole, the instant of a local time outside leap seconds is that of the
day after: read with the offset before the change it shows one day more. -/
theorem SkipsDay.instantOf_eq (skipped : z.SkipsDay l) (plain : l.reading.isLeap = false)
    (valid : l.reading.nano < 2 * nanosPerSecond) (found : z.instantOf? l = some t)
    (found' : z.instantOf? (l.later 86400) = some t') : t = t' := by
  obtain ⟨change, skips, wholeDay⟩ := skipped
  have moved : t = l.under (z.offsetAt (change - 1)) := by
    rcases instantOf_cases valid found with ⟨shown, _⟩ | ⟨change', skips', rfl⟩
    · exact absurd shown (skips.not_shown t)
    obtain ⟨around, before, after, near⟩ := z.exists_around l.reading.second
    obtain ⟨rfl, _, _⟩ := skips.around near
    obtain ⟨rfl, _, _⟩ := skips'.around near
    rw [Instant.shift_seconds plain]
    rfl
  have shown : z.toLocal t = l.later 86400 := by
    rw [moved, skips.toLocal_under, wholeDay]
    congr 1
    omega
  have later : l.reading.second + 86400 ≤ (l.later 86400).reading.second := Int.le_refl _
  have valid' : (l.later 86400).reading.nano < 2 * nanosPerSecond := valid
  have first : t' ≤ t := by
    rcases instantOf_cases valid' found' with least | ⟨_, skips', _⟩
    · exact least.2 shown
    · exact absurd shown (skips'.not_shown t)
  rcases instantOf_lt later rfl valid found found' with before | ⟨same, _⟩
  · exact absurd before (not_lt.mpr first)
  · exact same

end Zone

end Punctual
