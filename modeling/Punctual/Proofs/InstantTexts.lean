import Punctual.Proofs.Dates
import Punctual.Proofs.Readings

/-!
The text of an instant reads back as that instant, over the whole range, whatever the year, the fraction
or the leap second. An instant that was read itself can be written, because a leap second is read at the
end of a minute only and distances from UTC are whole minutes.
-/
namespace Punctual

open Text

namespace Numeral

variable {width n limit : Nat} {digits rest : List Char}

theorem padded_digits (width n : Nat) : ∀ c ∈ padded width n, c.isDigit = true := by
  intro c member
  rcases List.mem_append.mp member with zero | digit
  · obtain ⟨_, rfl⟩ := List.mem_replicate.mp zero
    decide
  · exact Nat.isDigit_of_mem_toDigits (by decide) (by decide) digit

theorem padded_ne_nil (width n : Nat) : padded width n ≠ [] := by
  simp [padded, Nat.toDigits_ne_nil]

theorem value_padded (width n : Nat) : value (padded width n) = n := by
  rw [value, padded, Nat.ofDigitChars_append, Nat.ofDigitChars_replicate_zero, Nat.mul_zero,
    Nat.ofDigitChars_ten_toDigits]

theorem length_padded (positive : 0 < width) (below : n < 10 ^ width) :
    (padded width n).length = width := by
  have short := (Nat.length_toDigits_le_iff (by decide) positive).mpr below
  simp only [padded, List.length_append, List.length_replicate]
  omega

/-- Digits are split off up to the limit, or to the first other character. -/
theorem span_append (all : ∀ c ∈ digits, c.isDigit = true) (short : digits.length ≤ limit)
    (stop : digits.length = limit ∨ ∀ c ∈ rest.head?, c.isDigit = false) :
    span limit (digits ++ rest) = (digits, rest) := by
  induction digits generalizing limit with
  | nil =>
    cases limit with
    | zero => rfl
    | succ limit =>
      cases rest with
      | nil => rfl
      | cons c rest =>
        have other : c.isDigit = false := by simpa using stop
        simp [span, other]
  | cons c digits ih =>
    cases limit with
    | zero => simp at short
    | succ limit =>
      simp only [List.length_cons, Nat.add_le_add_iff_right, Nat.add_right_cancel_iff] at short stop
      have split := ih (fun other member => all other (List.mem_cons_of_mem c member)) short stop
      simp [span, all c List.mem_cons_self, split]

theorem read_padded (short : (padded width n).length ≤ limit)
    (stop : (padded width n).length = limit ∨ ∀ c ∈ rest.head?, c.isDigit = false) :
    read? limit (padded width n ++ rest) = some (n, rest) := by
  unfold read?
  rw [span_append (padded_digits width n) short stop]
  cases written : padded width n with
  | nil => exact absurd written (padded_ne_nil width n)
  | cons c more => exact congrArg (fun n => some (n, rest)) (written ▸ value_padded width n)

/-- A number begins with a digit. -/
theorem padded_append_ne {c : Char} {more : List Char} (other : c.isDigit = false) :
    padded width n ++ rest ≠ c :: more := by
  intro same
  cases written : padded width n with
  | nil => exact padded_ne_nil width n written
  | cons first digits =>
    have digit := padded_digits width n first (written ▸ List.mem_cons_self)
    rw [written] at same
    cases same
    rw [other] at digit
    cases digit

end Numeral

theorem Text.not_blank_of_digit {c : Char} (digit : c.isDigit = true) : isBlank c = false := by
  simp only [Char.isDigit, Bool.and_eq_true, decide_eq_true_eq] at digit
  have low : 48 ≤ c.toNat := UInt32.le_iff_toNat_le.mp digit.1
  have high : c.toNat ≤ 57 := UInt32.le_iff_toNat_le.mp digit.2
  simp only [isBlank, Bool.or_eq_false_iff, Bool.and_eq_false_iff, decide_eq_false_iff_not,
    beq_eq_false_iff_ne]
  omega

/-- There are no blanks before a number. -/
theorem Text.skipBlanks_padded (width n : Nat) (rest : List Char) :
    skipBlanks (Numeral.padded width n ++ rest) = Numeral.padded width n ++ rest := by
  have digits := Numeral.padded_digits width n
  cases padded : Numeral.padded width n with
  | nil => exact absurd padded (Numeral.padded_ne_nil width n)
  | cons c more =>
    rw [padded] at digits
    simp [skipBlanks, not_blank_of_digit (digits c List.mem_cons_self)]

namespace Instant

/-! ## Reading what was written -/

variable {t : Instant} {n : Nat} {rest : List Char}

theorem readPair_padded (below : n < 100) (rest : List Char) :
    readPair? (Numeral.padded 2 n ++ rest) = some (n, rest) := by
  have length : (Numeral.padded 2 n).length = 2 := Numeral.length_padded (by decide) below
  rw [readPair?, skipBlanks_padded]
  exact Numeral.read_padded (Nat.le_of_eq length) (.inl length)

theorem readYear_minus (rest : List Char) : readYear? ('-' :: rest) =
    (Numeral.read? rest.length rest).map fun (n, rest) => (-(n : Int), rest) := rfl

theorem readYear_plus (rest : List Char) : readYear? ('+' :: rest) =
    (Numeral.read? rest.length rest).map fun (n, rest) => ((n : Int), rest) := rfl

theorem readYear_yearText (year : Int) (rest : List Char) :
    readYear? (yearText year ++ '-' :: rest) = some (year, '-' :: rest) := by
  have stop : ∀ c ∈ ('-' :: rest).head?, c.isDigit = false := by
    rintro _ ⟨⟩
    decide
  by_cases plain : 0 ≤ year ∧ year ≤ 9999
  · have length : (Numeral.padded 4 year.toNat).length = 4 := Numeral.length_padded (by decide) (by omega)
    rw [yearText, if_pos plain, readYear?, skipBlanks_padded]
    split
    · exact absurd ‹_› (Numeral.padded_append_ne (by decide))
    · exact absurd ‹_› (Numeral.padded_append_ne (by decide))
    · rw [Numeral.read_padded (Nat.le_of_eq length) (.inr stop)]
      exact congrArg (fun year => some (year, '-' :: rest)) (by omega)
  · have room : (Numeral.padded 4 year.natAbs).length ≤
        (Numeral.padded 4 year.natAbs ++ '-' :: rest).length := by simp
    have read := Numeral.read_padded room (.inr stop)
    rw [yearText, if_neg plain]
    by_cases negative : year < 0
    · rw [if_pos negative, List.cons_append, readYear_minus, read]
      exact congrArg (fun year => some (year, '-' :: rest)) (by omega)
    · rw [if_neg negative, List.cons_append, readYear_plus, read]
      exact congrArg (fun year => some (year, '-' :: rest)) (by omega)

/-- A mark that is no blank is read where it stands. -/
theorem readMark_self {mark : Char} (seen : isBlank mark = false) (rest : List Char) :
    readMark? mark (mark :: rest) = some rest := by
  simp [readMark?, skipBlanks, seen]

theorem readDate_dateText (inRange : t.inRange = true) (rest : List Char) :
    readDate? (t.dateText ++ rest) = some (Date.ofDays (t.second / 86400), rest) := by
  have valid := Date.ofDays_valid (t.second / 86400)
  have years := Date.ofDays_year inRange
  obtain ⟨month, day⟩ := Date.bounds_of_valid valid
  simp only [dateText, List.append_assoc, List.cons_append]
  simp [readDate?, readYear_yearText, readMark_self, readPair_padded, month, day, isBlank, valid, years]

/-- A fraction written in so many digits counts as many nanoseconds as its zeros bring it to. -/
theorem readFraction_padded {width : Nat} (positive : 0 < width) (fits : width ≤ 9) (below : n < 10 ^ width) :
    readFraction? ('.' :: (Numeral.padded width n ++ ['Z'])) = some (n * 10 ^ (9 - width), ['Z']) := by
  have length : (Numeral.padded width n).length = width := Numeral.length_padded positive below
  have stop : ∀ c ∈ ['Z'].head?, c.isDigit = false := by
    rintro _ ⟨⟩
    decide
  have split := Numeral.span_append (Numeral.padded_digits width n) (length ▸ fits) (.inr stop)
  simp only [readFraction?, split]
  split
  · rename_i empty
    exact absurd (congrArg Prod.fst empty) (Numeral.padded_ne_nil width n)
  · rename_i same
    obtain ⟨rfl, rfl⟩ := Prod.mk.inj same
    rw [Numeral.value_padded, length]
    rfl

theorem readFraction_fractionText (t : Instant) :
    readFraction? (t.fractionText ++ ['Z']) = some (t.nano % nanosPerSecond, ['Z']) := by
  have below : t.nano % nanosPerSecond < 10 ^ 9 := Nat.mod_lt _ (by decide)
  unfold fractionText
  dsimp only
  split
  · rename_i whole
    rw [whole]
    rfl
  split
  · rename_i millis
    rw [List.cons_append, readFraction_padded (by decide) (by decide) (by omega)]
    exact congrArg (fun nano => some (nano, ['Z'])) (by omega)
  split
  · rename_i micros
    rw [List.cons_append, readFraction_padded (by decide) (by decide) (by omega)]
    exact congrArg (fun nano => some (nano, ['Z'])) (by omega)
  · rw [List.cons_append, readFraction_padded (by decide) (by decide) below]
    exact congrArg (fun nano => some (nano, ['Z'])) (by omega)

/-- A valid instant whose leap second, if it lies in one, is at the end of a minute. -/
structure Writable (t : Instant) : Prop extends t.Valid where
  minute : t.isLeap = true → t.second % 60 = 59

theorem readTime_timeText (writable : t.Writable) :
    readTime? (t.timeText ++ (t.fractionText ++ ['Z'])) =
      some ((t.second % 86400).toNat, t.nano, ['Z']) := by
  have nano := writable.nano
  have day : (t.second % 86400).toNat < 86400 := by omega
  simp only [timeText, List.append_assoc, List.cons_append]
  generalize clock : (t.second % 86400).toNat = second at day ⊢
  have hours : second / 3600 < 100 := by omega
  have minutes : second / 60 % 60 < 100 := by omega
  by_cases leap : t.isLeap = true
  · have last := writable.minute leap
    have past : nanosPerSecond ≤ t.nano := by simpa [isLeap] using leap
    have sixty : second % 60 + 1 = 60 := by omega
    simp [readTime?, readPair_padded, readMark_self, readFraction_fractionText, hours, minutes, leap,
      isBlank, sixty]
    simp only [nanosPerSecond] at nano past ⊢
    omega
  · have below : t.nano < nanosPerSecond := by simpa [isLeap] using leap
    have seconds : second % 60 < 100 := by omega
    have plain : second % 60 ≠ 60 := by omega
    simp [readTime?, readPair_padded, readMark_self, readFraction_fractionText, hours, minutes, seconds,
      leap, isBlank, plain]
    simp only [nanosPerSecond] at below ⊢
    omega

/-- What was written reads back. -/
theorem ofText_text (writable : t.Writable) : ofText? t.text = some t := by
  have second : (Date.ofDays (t.second / 86400)).toDays * 86400 + (t.second % 86400).toNat - 0 =
      t.second := by
    rw [Date.toDays_ofDays]
    omega
  simp only [text, List.append_assoc, List.cons_append]
  unfold ofText?
  simp only [↓do_eq_some_iff]
  refine ⟨_, readDate_dateText writable.inRange _, _, rfl, _, readTime_timeText writable, (0, []), rfl, ?_⟩
  dsimp only
  rw [second]
  exact if_pos (by simp [isAllBlank, writable.inRange])

/-! ## What is read can be written -/

theorem readDistance_minutes {cs rest : List Char} {distance : Int}
    (read : readDistance? cs = some (distance, rest)) : distance % 60 = 0 := by
  unfold readDistance? at read
  simp only [↓do_eq_some_iff] at read
  obtain ⟨⟨hours, _⟩, _, ⟨minutes, _⟩, _, read⟩ := read
  dsimp only at read
  split at read <;> cases read
  omega

theorem readOffset_minutes {cs rest : List Char} {offset : Int}
    (read : readOffset? cs = some (offset, rest)) : offset % 60 = 0 := by
  have signed : ∀ {cs}, readSignedOffset? cs = some (offset, rest) → offset % 60 = 0 := by
    intro cs read
    unfold readSignedOffset? at read
    split at read
    · cases read
      rfl
    · cases read
      rfl
    · exact readDistance_minutes read
    · obtain ⟨⟨distance, _⟩, distant, same⟩ := Option.map_eq_some_iff.mp read
      cases same
      have minutes := readDistance_minutes distant
      omega
    · obtain ⟨⟨distance, _⟩, distant, same⟩ := Option.map_eq_some_iff.mp read
      cases same
      have minutes := readDistance_minutes distant
      omega
    · cases read
  unfold readOffset? at read
  split at read
  · split at read
    · cases read
      rfl
    · exact signed read
  · exact signed read

theorem readTime_minute {cs rest : List Char} {second nano : Nat}
    (read : readTime? cs = some (second, nano, rest)) (leap : nanosPerSecond ≤ nano) :
    second % 60 = 59 := by
  unfold readTime? at read
  simp only [↓do_eq_some_iff] at read
  obtain ⟨_, _, _, _, _, _, _, _, _, _, ⟨fraction, _⟩, fractional, read⟩ := read
  have below := readFraction_lt fractional
  dsimp only at read
  split at read
  · cases read
  split at read <;> cases read
  · omega
  · omega

theorem ofText_writable {cs : List Char} (read : ofText? cs = some t) : t.Writable := by
  refine ⟨ofText_valid read, fun leap => ?_⟩
  unfold ofText? at read
  simp only [↓do_eq_some_iff] at read
  obtain ⟨⟨date, _⟩, _, _, _, ⟨second, nano, _⟩, timed, ⟨offset, _⟩, shown, read⟩ := read
  dsimp only at read
  split at read <;> cases read
  have minute := readTime_minute timed (by simpa [isLeap] using leap)
  have offsets := readOffset_minutes shown
  dsimp only
  omega

end Instant

end Punctual
