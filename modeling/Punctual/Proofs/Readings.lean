import Mathlib.Algebra.Group.Nat.Defs
import Punctual.Job.Record

/-!
What reading a record makes sure of. A text that spells an instant gives one that lies in the range,
with nanoseconds below two seconds; numbers are within the bits of their fields. Nothing is made sure of
periods, which may be zero or negative.
-/
namespace Punctual

/-- A reader that reads on answers if both parts do. -/
theorem do_eq_some_iff {α β : Type} {first : Option α} {next : α → Option β} {b : β} :
    (first >>= next) = some b ↔ ∃ a, first = some a ∧ next a = some b :=
  Option.bind_eq_some_iff

theorem eq_of_toInt32 {n m : Int} (fits : toInt32? n = some m) : m = n := by
  unfold toInt32? at fits
  split at fits <;> cases fits
  rfl

theorem eq_of_toInt64 {n m : Int} (fits : toInt64? n = some m) : m = n := by
  unfold toInt64? at fits
  split at fits <;> cases fits
  rfl

namespace Numeral

theorem digit_le {c : Char} (digit : c.isDigit = true) : c.toNat - '0'.toNat ≤ 9 := by
  have last : c.val ≤ '9'.val := by
    simp only [Char.isDigit, Bool.and_eq_true, decide_eq_true_eq] at digit
    exact digit.2
  have bound : c.toNat ≤ '9'.toNat := UInt32.le_iff_toNat_le.mp last
  have nine : '9'.toNat = '0'.toNat + 9 := by decide
  omega

/-- Digits spell a number below the power of ten with as many zeros. -/
theorem value_lt {digits : List Char} (all : ∀ c ∈ digits, c.isDigit = true) :
    value digits < 10 ^ digits.length := by
  induction digits with
  | nil => decide
  | cons c rest ih =>
    have tail := ih fun other member => all other (List.mem_cons_of_mem c member)
    have digit := digit_le (all c List.mem_cons_self)
    have leading : 10 ^ rest.length * (c.toNat - '0'.toNat) ≤ 10 ^ rest.length * 9 :=
      Nat.mul_le_mul_left _ digit
    unfold value at tail ⊢
    rw [Nat.ofDigitChars_cons, Nat.ofDigitChars_eq_ofDigitChars_zero, Nat.mul_zero, Nat.zero_add,
      List.length_cons, Nat.pow_succ]
    omega

theorem span_digits (limit : Nat) (cs : List Char) :
    (span limit cs).1.length ≤ limit ∧ ∀ c ∈ (span limit cs).1, c.isDigit = true := by
  fun_induction span limit cs with
  | case1 cs => simp
  | case2 limit => simp
  | case3 limit c cs digit digits rest split ih =>
    simp only [split] at ih
    refine ⟨by simpa using ih.1, ?_⟩
    intro other member
    rcases List.mem_cons.mp member with rfl | member
    · exact digit
    · exact ih.2 other member
  | case4 limit c cs other => simp

end Numeral

/-! ## Instants -/

namespace Instant

/-- In the range, and no further into a leap second than it is long. -/
structure Valid (t : Instant) : Prop where
  inRange : t.inRange = true
  nano : t.nano < 2 * nanosPerSecond

/-- Moving an instant leaves it valid. -/
theorem shift_valid {t moved : Instant} {length : Int} (shifted : t.shift? length = some moved) :
    moved.Valid := by
  have plain : ∀ n, (ofNanos n).nano < 2 * nanosPerSecond := by
    intro n
    simp only [ofNanos, nanosPerSecond]
    omega
  have nano : (t.shift length).nano < 2 * nanosPerSecond := by
    unfold shift
    split
    · split
      · exact plain _
      split
      · dsimp only
        omega
      · exact plain _
    · exact plain _
  unfold shift? at shifted
  dsimp only at shifted
  split at shifted <;> cases shifted
  exact ⟨by assumption, nano⟩

theorem readFraction_lt {cs rest : List Char} {nano : Nat} (read : readFraction? cs = some (nano, rest)) :
    nano < nanosPerSecond := by
  unfold readFraction? at read
  split at read
  · rename_i after
    obtain ⟨short, all⟩ := Numeral.span_digits 9 after
    split at read <;> cases read
    rename_i digits rest _ split
    rw [split] at short all
    have bound := Numeral.value_lt all
    have scaled : Numeral.value digits * 10 ^ (9 - digits.length) <
        10 ^ digits.length * 10 ^ (9 - digits.length) :=
      Nat.mul_lt_mul_of_pos_right bound (Nat.pow_pos (by decide))
    have whole : 10 ^ digits.length * 10 ^ (9 - digits.length) = 10 ^ 9 := by
      rw [← Nat.pow_add, Nat.add_sub_cancel' short]
    rw [whole] at scaled
    exact scaled
  · cases read
    decide

theorem readTime_lt {cs rest : List Char} {second nano : Nat}
    (read : readTime? cs = some (second, nano, rest)) : nano < 2 * nanosPerSecond := by
  unfold readTime? at read
  simp only [↓do_eq_some_iff] at read
  obtain ⟨_, _, _, _, _, _, _, _, _, _, ⟨fraction, _⟩, fractional, read⟩ := read
  have below := readFraction_lt fractional
  dsimp only at read
  split at read
  · cases read
  split at read <;> cases read
  · omega
  · omega

theorem ofText_valid {cs : List Char} {t : Instant} (read : ofText? cs = some t) : t.Valid := by
  unfold ofText? at read
  simp only [↓do_eq_some_iff] at read
  obtain ⟨_, _, _, _, ⟨second, nano, _⟩, timed, _, _, read⟩ := read
  dsimp only at read
  split at read <;> cases read
  rename_i accepted
  simp only [Bool.and_eq_true] at accepted
  exact ⟨accepted.2, readTime_lt timed⟩

end Instant

/-! ## Triggers -/

theorem Json.instant_valid {j : Json} {t : Instant} (read : j.instant? = some t) : t.Valid := by
  obtain ⟨text, _, read⟩ := Option.bind_eq_some_iff.mp read
  exact Instant.ofText_valid read

theorem Json.int32_bounds {j : Json} {n : Int} (read : j.int32? = some n) :
    minInt32 ≤ n ∧ n ≤ maxInt32 := by
  obtain ⟨m, _, fits⟩ := Option.bind_eq_some_iff.mp read
  unfold toInt32? at fits
  split at fits <;> cases fits
  assumption

/-- A trigger that reading a record can give. -/
inductive Trigger.Read : Trigger → Prop
  | pointInTime (next? : Option Instant) : Read (.pointInTime next?)
  | interval {t : Interval} (start : t.start.Valid) : Read (.interval t)
  | simpleTimer {t : SimpleTimer} (start : t.start.Valid)
    (index : minInt32 ≤ t.index ∧ t.index ≤ maxInt32) : Read (.simpleTimer t)

theorem Json.Record.withDefault_bounds {r : Json.Record} {name : String} {n : Int}
    (read : r.withDefault name Json.int32? 0 = some n) : minInt32 ≤ n ∧ n ≤ maxInt32 := by
  unfold Json.Record.withDefault at read
  split at read
  · cases read
    decide
  · exact Json.int32_bounds read

theorem Json.Record.optional_some {α : Type} {r : Json.Record} {name : String} {read : Json → Option α}
    {a : α} (found : r.optional name read = some (some a)) : ∃ value, read value = some a := by
  unfold Json.Record.optional at found
  split at found
  · cases found
  · cases found
  · rename_i value _ _
    obtain ⟨b, read, same⟩ := Option.map_eq_some_iff.mp found
    cases same
    exact ⟨value, read⟩

theorem Interval.ofRecord_start {j : Json} {t : Interval} (read : Interval.ofRecord? j = some t) :
    t.start.Valid := by
  have started : ∃ r : Json.Record, r.required "start_time" Json.instant? = some t.start := by
    unfold Interval.ofRecord? at read
    simp only [↓do_eq_some_iff] at read
    grind
  obtain ⟨r, started⟩ := started
  obtain ⟨value, _, read⟩ := Option.bind_eq_some_iff.mp started
  exact Json.instant_valid read

theorem SimpleTimer.ofRecord_read {j : Json} {t : SimpleTimer} (read : SimpleTimer.ofRecord? j = some t) :
    t.start.Valid ∧ minInt32 ≤ t.index ∧ t.index ≤ maxInt32 := by
  have fields : ∃ r : Json.Record, r.required "start_time" Json.instant? = some t.start ∧
      r.withDefault "current_repeat_count" Json.int32? 0 = some t.index := by
    unfold SimpleTimer.ofRecord? at read
    simp only [↓do_eq_some_iff] at read
    grind
  obtain ⟨r, started, indexed⟩ := fields
  obtain ⟨value, _, read⟩ := Option.bind_eq_some_iff.mp started
  exact ⟨Json.instant_valid read, Json.Record.withDefault_bounds indexed⟩

theorem Trigger.ofJson_read {j : Json} {t : Trigger} (read : Trigger.ofJson? j = some t) : t.Read := by
  unfold Trigger.ofJson? at read
  simp only [↓do_eq_some_iff] at read
  obtain ⟨⟨kind, rest⟩, _, read⟩ := read
  dsimp only at read
  split at read
  · obtain ⟨r, _, read⟩ := Option.bind_eq_some_iff.mp read
    obtain ⟨next?, _, same⟩ := Option.bind_eq_some_iff.mp read
    cases same
    exact .pointInTime next?
  · obtain ⟨t, made, same⟩ := Option.bind_eq_some_iff.mp read
    cases same
    exact .interval (Interval.ofRecord_start made)
  · obtain ⟨t, made, same⟩ := Option.bind_eq_some_iff.mp read
    cases same
    obtain ⟨start, index⟩ := SimpleTimer.ofRecord_read made
    exact .simpleTimer start index
  · cases read

theorem Job.ofJson_trigger {j : Json} {job : Job} (read : Job.ofJson? j = some job) : job.trigger.Read := by
  have triggered : ∃ r : Json.Record, r.required "trigger" Trigger.ofJson? = some job.trigger := by
    unfold Job.ofJson? at read
    simp only [↓do_eq_some_iff] at read
    grind
  obtain ⟨r, triggered⟩ := triggered
  obtain ⟨value, _, read⟩ := Option.bind_eq_some_iff.mp triggered
  exact Trigger.ofJson_read read

theorem JobPatch.ofJson_trigger {j : Json} {patch : JobPatch} {trigger : Trigger}
    (read : JobPatch.ofJson? j = some patch) (named : patch.trigger? = some trigger) : trigger.Read := by
  have triggered : ∃ r : Json.Record, r.optional "trigger" Trigger.ofJson? = some patch.trigger? := by
    unfold JobPatch.ofJson? at read
    simp only [↓do_eq_some_iff] at read
    grind
  obtain ⟨r, triggered⟩ := triggered
  rw [named] at triggered
  obtain ⟨value, read⟩ := Json.Record.optional_some triggered
  exact Trigger.ofJson_read read

end Punctual
