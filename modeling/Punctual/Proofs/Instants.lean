import Mathlib.Order.Defs.LinearOrder
import Punctual.Instant

/-!
The order of instants, and how lengths of time move them. Instants outside leap seconds are their
counts of nanoseconds: the counts give their order, and a move adds to the count. An instant within a
leap second has a place in the order too, but counts like one in the second after it.
-/
namespace Punctual.Instant

variable {a b t : Instant} {n m : Int}

theorem eq_of_parts (seconds : a.second = b.second) (nanos : a.nano = b.nano) : a = b := by
  cases a
  cases b
  cases seconds
  cases nanos
  rfl

instance : LinearOrder Instant where
  le_refl a := le_def.mpr (.inr ⟨rfl, Nat.le_refl _⟩)
  le_trans a b c first second := by
    rw [le_def] at first second ⊢
    omega
  lt_iff_le_not_ge a b := by
    rw [lt_def, le_def, le_def]
    omega
  le_antisymm a b first second := by
    rw [le_def] at first second
    exact eq_of_parts (by omega) (by omega)
  le_total a b := by
    rw [le_def, le_def]
    omega
  max_def a b := by
    change (if a < b then b else a) = _
    simp only [lt_def, le_def]
    split <;> split
    · rfl
    · omega
    · exact eq_of_parts (by omega) (by omega)
    · rfl
  toDecidableLE := inferInstance

/-! ## Instants outside leap seconds -/

theorem isLeap_eq_false : t.isLeap = false ↔ t.nano < nanosPerSecond := by
  simp [isLeap]

theorem toNanos_ofNanos (n : Int) : (ofNanos n).toNanos = n := by
  simp only [toNanos, ofNanos, nanosPerSecond]
  omega

theorem ofNanos_plain (n : Int) : (ofNanos n).isLeap = false := by
  simp only [isLeap_eq_false, ofNanos, nanosPerSecond]
  omega

theorem le_iff_toNanos (plain : a.isLeap = false) (plain' : b.isLeap = false) :
    a ≤ b ↔ a.toNanos ≤ b.toNanos := by
  rw [isLeap_eq_false] at plain plain'
  simp only [le_def, toNanos, nanosPerSecond] at plain plain' ⊢
  omega

theorem ofNanos_toNanos (plain : t.isLeap = false) : ofNanos t.toNanos = t := by
  rw [isLeap_eq_false] at plain
  simp only [toNanos, ofNanos, nanosPerSecond] at plain ⊢
  exact eq_of_parts (by simp only; omega) (by simp only; omega)

theorem inRange_iff (plain : t.isLeap = false) : t.inRange = true ↔ earliest ≤ t ∧ t ≤ latest := by
  rw [isLeap_eq_false] at plain
  simp only [inRange, earliest, latest, le_def, Bool.and_eq_true, decide_eq_true_eq]
  omega

theorem toNanos_bounds (plain : t.isLeap = false) (within : t.inRange = true) :
    earliest.toNanos ≤ t.toNanos ∧ t.toNanos ≤ latest.toNanos := by
  obtain ⟨first, last⟩ := (inRange_iff plain).mp within
  exact ⟨(le_iff_toNanos (by decide) plain).mp first, (le_iff_toNanos plain (by decide)).mp last⟩

/-! ## Moves -/

theorem shift_eq_ofNanos (plain : t.isLeap = false) (length : Int) :
    t.shift length = ofNanos (t.toNanos + length) := by
  simp [shift, plain]

theorem shift_plain (plain : t.isLeap = false) (length : Int) : (t.shift length).isLeap = false := by
  rw [shift_eq_ofNanos plain]
  exact ofNanos_plain _

theorem toNanos_shift (plain : t.isLeap = false) (length : Int) :
    (t.shift length).toNanos = t.toNanos + length := by
  rw [shift_eq_ofNanos plain, toNanos_ofNanos]

/-- A move by whole seconds changes no fraction. -/
theorem shift_seconds (plain : t.isLeap = false) (seconds : Int) :
    t.shift (seconds * nanosPerSecond) = ⟨t.second + seconds, t.nano⟩ := by
  have nanos := isLeap_eq_false.mp plain
  rw [shift_eq_ofNanos plain]
  simp only [nanosPerSecond] at nanos
  simp only [ofNanos, toNanos, nanosPerSecond]
  exact eq_of_parts (by simp only; omega) (by simp only; omega)

/-- Later instants move to later ones, and greater lengths move further. -/
theorem shift_le_shift (plain : a.isLeap = false) (plain' : b.isLeap = false) (before : a ≤ b)
    (shorter : n ≤ m) : a.shift n ≤ b.shift m := by
  rw [le_iff_toNanos plain plain'] at before
  rw [le_iff_toNanos (shift_plain plain n) (shift_plain plain' m), toNanos_shift plain,
    toNanos_shift plain']
  omega

theorem le_shift (plain : t.isLeap = false) (forward : 0 ≤ n) : t ≤ t.shift n := by
  rw [le_iff_toNanos plain (shift_plain plain n), toNanos_shift plain]
  omega

theorem shift_le (plain : t.isLeap = false) (back : n ≤ 0) : t.shift n ≤ t := by
  rw [le_iff_toNanos (shift_plain plain n) plain, toNanos_shift plain]
  omega

/-- An instant that is no later than its second allows is where it is, also within a leap second. -/
theorem shift_zero (valid : t.nano < 2 * nanosPerSecond) : t.shift 0 = t := by
  cases leap : t.isLeap with
  | false => rw [shift_eq_ofNanos leap, Int.add_zero, ofNanos_toNanos leap]
  | true =>
    have within : nanosPerSecond ≤ t.nano := by simpa [isLeap] using leap
    simp only [shift, leap, ↓reduceIte, Int.add_zero]
    rw [if_neg (by omega), if_pos (by omega)]
    simp

theorem shift?_eq_some (moved : t.shift? n = some a) : a = t.shift n ∧ a.inRange = true := by
  simp only [shift?] at moved
  split at moved
  · rename_i within
    cases moved
    exact ⟨rfl, within⟩
  · cases moved

theorem after_plain (plain : t.isLeap = false) (length : Int) : (t.after length).isLeap = false := by
  simp only [after, shift?]
  split
  · exact shift_plain plain length
  · decide

theorem after_inRange (t : Instant) (length : Int) : (t.after length).inRange = true := by
  simp only [after, shift?]
  split
  · assumption
  · decide

/-- What lies in the range and no further than a length of time allows, is reached in that time. -/
theorem le_after (plain : a.isLeap = false) (within : a.inRange = true) (reached : a ≤ t.shift n) :
    a ≤ t.after n := by
  simp only [after, shift?]
  split
  · exact reached
  · exact ((inRange_iff plain).mp within).2

/-- The time until a later instant is positive. -/
theorem since_pos (plain : a.isLeap = false) (before : a < t) : 0 < t.since a := by
  have nanos := isLeap_eq_false.mp plain
  simp only [lt_def, nanosPerSecond] at before nanos
  simp only [since, plain, toNanos, nanosPerSecond, Bool.false_eq_true, ↓reduceIte]
  cases leap : t.isLeap with
  | false =>
    simp only [Bool.false_eq_true, ↓reduceIte, ite_self]
    omega
  | true =>
    -- a leap second is deducted only between different times of day, hence from a whole second
    have within : nanosPerSecond ≤ t.nano := by simpa [isLeap] using leap
    simp only [nanosPerSecond] at within
    simp only [↓reduceIte]
    split
    · omega
    split <;> omega

/-- Between instants outside leap seconds, time is the difference of the counts. -/
theorem since_plain (plain : a.isLeap = false) (plain' : b.isLeap = false) :
    a.since b = a.toNanos - b.toNanos := by
  simp [since, plain, plain']

/-! ## Leap seconds -/

/-- By how much an instant within a leap second counts like one in the second after it. -/
def leapNanos (t : Instant) : Int := if t.isLeap then nanosPerSecond else 0

theorem leapNanos_nonneg (t : Instant) : 0 ≤ t.leapNanos := by
  unfold leapNanos
  split <;> decide

theorem leapNanos_le (t : Instant) : t.leapNanos ≤ nanosPerSecond := by
  unfold leapNanos
  split <;> decide

/-- A move does not count a leap second that it leaves forward. -/
theorem toNanos_shift_le (t : Instant) (length : Int) :
    (t.shift length).toNanos ≤ t.toNanos + length := by
  have second : (0 : Int) ≤ nanosPerSecond := by decide
  unfold shift
  split
  · split
    · rw [toNanos_ofNanos]
      omega
    split
    · simp only [toNanos, nanosPerSecond]
      omega
    · simp [toNanos_ofNanos]
  · simp [toNanos_ofNanos]

theorem le_toNanos_shift (t : Instant) (length : Int) :
    t.toNanos + length - t.leapNanos ≤ (t.shift length).toNanos := by
  have leap := t.leapNanos_nonneg
  cases within : t.isLeap with
  | false =>
    rw [toNanos_shift within]
    omega
  | true =>
    simp only [leapNanos, within, shift, ↓reduceIte]
    split
    · rw [toNanos_ofNanos]
      omega
    split
    · simp only [toNanos, nanosPerSecond]
      omega
    · rw [toNanos_ofNanos, nanosPerSecond]
      omega

/-- Time leaves out a leap second only at its end. -/
theorem le_since (a b : Instant) : a.toNanos - b.toNanos - a.leapNanos ≤ a.since b := by
  have second : (0 : Int) ≤ nanosPerSecond := by decide
  have leap := a.leapNanos_nonneg
  simp only [since]
  split
  · split <;> omega
  split
  · unfold leapNanos
    split <;> omega
  · omega

/-- Time counts a leap second only at its beginning. -/
theorem since_le (a b : Instant) : a.since b ≤ a.toNanos - b.toNanos + b.leapNanos := by
  have second : (0 : Int) ≤ nanosPerSecond := by decide
  have leap := b.leapNanos_nonneg
  simp only [since]
  split
  · unfold leapNanos
    split <;> omega
  split
  · split <;> omega
  · omega

/-- What counts a second less comes before, leap second or not. -/
theorem lt_of_toNanos_add (valid : t.nano < 2 * nanosPerSecond)
    (early : a.toNanos + nanosPerSecond ≤ t.toNanos) : a < t := by
  simp only [toNanos, nanosPerSecond, lt_def] at valid early ⊢
  omega

theorem toNanos_lt_add (valid : a.nano < 2 * nanosPerSecond) (before : a < t) :
    a.toNanos < t.toNanos + nanosPerSecond := by
  simp only [toNanos, nanosPerSecond, lt_def] at valid before ⊢
  omega

/-- Only a later time of day counts it. -/
theorem since_le_of_timeOfDay (early : a.second % 86400 ≤ b.second % 86400) :
    a.since b ≤ a.toNanos - b.toNanos := by
  have second : (0 : Int) ≤ nanosPerSecond := by decide
  simp only [since]
  split
  · omega
  split
  · split <;> omega
  · omega

/-- Within a leap second a move either stays there or leaves without counting it. -/
theorem shift_leap (leap : a.isLeap = true) (forward : 0 ≤ n) :
    a.shift n = ofNanos (a.toNanos - nanosPerSecond + n) ∨
      a.nano + n < 2 * nanosPerSecond ∧ a.shift n = ⟨a.second, (a.nano + n).toNat⟩ := by
  have within : nanosPerSecond ≤ a.nano := by simpa [isLeap] using leap
  by_cases leaves : 2 * (nanosPerSecond : Int) ≤ a.nano + n
  · exact .inl (by simp [shift, leap, leaves])
  · have stays : (nanosPerSecond : Int) ≤ a.nano + n := by omega
    exact .inr ⟨by omega, by simp [shift, leap, leaves, stays]⟩

/-- A longer move ends later, also from within a leap second. -/
theorem shift_lt_shift (forward : 0 ≤ n) (further : n < m) : t.shift n < t.shift m := by
  cases leap : t.isLeap with
  | false =>
    rw [shift_eq_ofNanos leap, shift_eq_ofNanos leap]
    simp only [lt_def, ofNanos, nanosPerSecond]
    omega
  | true =>
    have within : nanosPerSecond ≤ t.nano := by simpa [isLeap] using leap
    have stays : (nanosPerSecond : Int) ≤ t.nano + n := by omega
    have stays' : (nanosPerSecond : Int) ≤ t.nano + m := by omega
    simp only [shift, leap, stays, stays', ↓reduceIte]
    by_cases leaves : 2 * (nanosPerSecond : Int) ≤ t.nano + n
    · have leaves' : 2 * (nanosPerSecond : Int) ≤ t.nano + m := by omega
      rw [if_pos leaves, if_pos leaves']
      simp only [lt_def, ofNanos, nanosPerSecond]
      omega
    rw [if_neg leaves]
    split
    · simp only [lt_def, ofNanos, toNanos, nanosPerSecond] at *
      omega
    · rw [lt_def]
      exact .inr ⟨rfl, by dsimp only; omega⟩

theorem shift_mono (forward : 0 ≤ n) (further : n ≤ m) : t.shift n ≤ t.shift m := by
  rcases Int.le_iff_lt_or_eq.mp further with more | rfl
  · exact le_of_lt (shift_lt_shift forward more)
  · exact le_refl _

theorem le_shift_of_valid (valid : t.nano < 2 * nanosPerSecond) (forward : 0 ≤ n) : t ≤ t.shift n := by
  have further : t.shift 0 ≤ t.shift n := shift_mono (Int.le_refl 0) forward
  rw [shift_zero valid] at further
  exact further

theorem inRange_between {b c : Instant} (low : a ≤ b) (high : b ≤ c) (first : a.inRange = true)
    (last : c.inRange = true) : b.inRange = true := by
  simp only [inRange, Bool.and_eq_true, decide_eq_true_eq] at first last ⊢
  rw [le_def] at low high
  omega

/-- A move by whole seconds out of a leap second leaves it for the second before or after. -/
theorem shift_seconds_leap (leap : t.isLeap = true) (valid : t.nano < 2 * nanosPerSecond)
    (moves : n ≠ 0) : t.shift (n * nanosPerSecond) =
      ⟨t.second + n + if n < 0 then 1 else 0, t.nano - nanosPerSecond⟩ := by
  have within : nanosPerSecond ≤ t.nano := by simpa [isLeap] using leap
  simp only [nanosPerSecond] at valid within
  by_cases back : n < 0
  · have leaves : ¬ (nanosPerSecond : Int) ≤ t.nano + n * nanosPerSecond := by
      simp only [nanosPerSecond]
      omega
    have leaves' : ¬ 2 * (nanosPerSecond : Int) ≤ t.nano + n * nanosPerSecond := by
      simp only [nanosPerSecond]
      omega
    rw [shift, if_pos leap, if_neg leaves', if_neg leaves, if_pos back]
    simp only [ofNanos, toNanos, nanosPerSecond]
    exact eq_of_parts (by simp only; omega) (by simp only; omega)
  · have leaves : 2 * (nanosPerSecond : Int) ≤ t.nano + n * nanosPerSecond := by
      simp only [nanosPerSecond]
      omega
    rw [shift, if_pos leap, if_pos leaves, if_neg back]
    simp only [ofNanos, toNanos, nanosPerSecond]
    exact eq_of_parts (by simp only; omega) (by simp only; omega)

/-- A move by whole seconds changes the second by as many, or by one more; then the fraction is less. -/
theorem shift_seconds_cases (valid : t.nano < 2 * nanosPerSecond) (seconds : Int) :
    ∃ moved : Instant, t.shift (seconds * nanosPerSecond) = moved ∧ moved.nano ≤ t.nano ∧
      (moved.second = t.second + seconds ∨
        seconds < 0 ∧ moved.nano < t.nano ∧ moved.second = t.second + seconds + 1) := by
  refine ⟨_, rfl, ?_⟩
  cases leap : t.isLeap with
  | false =>
    rw [shift_seconds leap]
    exact ⟨Nat.le_refl _, .inl rfl⟩
  | true =>
    by_cases moves : seconds = 0
    · rw [moves, Int.zero_mul, shift_zero valid]
      exact ⟨Nat.le_refl _, .inl (by omega)⟩
    · have within : nanosPerSecond ≤ t.nano := by simpa [isLeap] using leap
      rw [shift_seconds_leap leap valid moves]
      simp only [nanosPerSecond] at within ⊢
      split <;> omega

/-- Outside leap seconds an instant comes before what counts more, except that within a leap second the
count must be a whole second more. -/
theorem lt_of_toNanos_lt (plain : a.isLeap = false) (valid : t.nano < 2 * nanosPerSecond)
    (short : a.toNanos + m ≤ t.toNanos) (positive : 0 < m)
    (clear : t.isLeap = false ∨ nanosPerSecond ≤ m) : a < t := by
  rcases clear with plain' | whole
  · rw [← not_le, le_iff_toNanos plain' plain]
    omega
  · exact lt_of_toNanos_add valid (by omega)

/-- A move that ends short of the time until an instant ends before it, except that before an instant
within a leap second it must end a whole second short. -/
theorem shift_lt (valid : a.nano < 2 * nanosPerSecond) (valid' : t.nano < 2 * nanosPerSecond)
    (forward : 0 ≤ n) (short : n + m ≤ t.since a) (positive : 0 < m)
    (clear : t.isLeap = false ∨ nanosPerSecond ≤ m) : a.shift n < t := by
  have passed := since_le t a
  cases leap : a.isLeap with
  | false =>
    have counted : a.leapNanos = 0 := by simp [leapNanos, leap]
    refine lt_of_toNanos_lt (shift_plain leap n) valid' ?_ positive clear
    rw [toNanos_shift leap]
    omega
  | true =>
    have counted : a.leapNanos = nanosPerSecond := by simp [leapNanos, leap]
    rcases shift_leap leap forward with leaves | ⟨inside, stays⟩
    · rw [leaves]
      refine lt_of_toNanos_lt (ofNanos_plain _) valid' ?_ positive clear
      rw [toNanos_ofNanos]
      omega
    · -- still in the leap second, and the instant is in a later second or further into this one
      rw [stays, lt_def]
      have within : nanosPerSecond ≤ a.nano := by simpa [isLeap] using leap
      have late : t.nano < nanosPerSecond ∨ nanosPerSecond ≤ m := clear.imp_left isLeap_eq_false.mp
      rw [counted] at passed
      have bound := since_le_of_timeOfDay (a := t) (b := a)
      simp only [toNanos, nanosPerSecond] at passed bound inside within late valid valid' ⊢
      by_cases early : t.second % 86400 ≤ a.second % 86400
      · have bound := bound early
        omega
      · omega

end Punctual.Instant
