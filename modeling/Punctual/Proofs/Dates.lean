import Mathlib.Tactic.IntervalCases
import Punctual.Instant

/-!
Numbering the days of the calendar. A date is found back from its number: 400 years from March on are
taken apart into centuries, groups of four years, years and days.
-/
namespace Punctual.Date

/-- A day of 400 years that begin with March: so many full centuries, full groups of four years and
full years are over. The leap day is the last day of its year. -/
structure Place where
  century : Int
  group : Int
  year : Int
  day : Int
  century_bounds : 0 ≤ century ∧ century ≤ 3
  group_bounds : 0 ≤ group ∧ group ≤ 24
  year_bounds : 0 ≤ year ∧ year ≤ 3
  day_bounds : 0 ≤ day ∧ day ≤ 365
  leap : day = 365 → year = 3 ∧ (group < 24 ∨ century = 3)

namespace Place

variable (p : Place)

/-- The days before it. -/
def number : Int := 36524 * p.century + 1461 * p.group + 365 * p.year + p.day

/-- The years before it. -/
def yearOfEra : Int := 100 * p.century + 4 * p.group + p.year

theorem exists_number {days : Int} (low : 0 ≤ days) (high : days < 146097) :
    ∃ p : Place, p.number = days := by
  -- the last century and the last year of a group may be a day longer than the others
  obtain ⟨century, rest, whole, centuries, fits⟩ : ∃ century rest : Int,
      days = 36524 * century + rest ∧ (0 ≤ century ∧ century ≤ 3) ∧
        0 ≤ rest ∧ rest ≤ 36524 ∧ (rest = 36524 → century = 3) :=
    ⟨min (days / 36524) 3, days - 36524 * min (days / 36524) 3, by omega⟩
  obtain ⟨year, day, split, years, left⟩ : ∃ year day : Int,
      rest % 1461 = 365 * year + day ∧ (0 ≤ year ∧ year ≤ 3) ∧
        0 ≤ day ∧ day ≤ 365 ∧ (day = 365 → year = 3) :=
    ⟨min (rest % 1461 / 365) 3, rest % 1461 - 365 * min (rest % 1461 / 365) 3, by omega⟩
  refine ⟨⟨century, rest / 1461, year, day, centuries, by omega, years, by omega, by omega⟩, ?_⟩
  simp only [number]
  omega

theorem number_bounds : 0 ≤ p.number ∧ p.number < 146097 := by
  obtain ⟨century, group, year, day, _, _, _, _, leap⟩ := p
  simp only [number]
  omega

theorem yearOfEra_eq : (p.number - p.number / 1460 + p.number / 36524 - p.number / 146096) / 365 =
    p.yearOfEra := by
  obtain ⟨century, group, year, day, centuries, groups, years, days, leap⟩ := p
  simp only [yearOfEra]
  generalize number : Place.number _ = n
  simp only [Place.number] at number
  have full : n / 36524 - n / 146096 = century := by
    by_cases last : n = 146096
    · rw [last]
      omega
    · have centuries : n / 36524 = century := by omega
      have eras : n / 146096 = 0 := by omega
      omega
  -- a day late in its group is counted past the leap day of that group before its time
  have leaps : (24 * century + group + 365 * year + day < 1460 ∧ n / 1460 = 25 * century + group) ∨
      (1460 ≤ 24 * century + group + 365 * year + day ∧ n / 1460 = 25 * century + group + 1) := by
    omega
  have years : n - n / 1460 + n / 36524 - n / 146096 =
      365 * (100 * century + 4 * group + year) + (25 * century + group - n / 1460) + day := by omega
  rw [years]
  generalize n / 1460 = counted at leaps ⊢
  omega

theorem day_eq : p.number - (365 * p.yearOfEra + p.yearOfEra / 4 - p.yearOfEra / 100) = p.day := by
  obtain ⟨century, group, year, day, _, _, _, _, leap⟩ := p
  simp only [number, yearOfEra]
  omega

/-- Months after March. -/
def monthFromMarch : Int := (5 * p.day + 2) / 153

/-- The date in the era that many times 400 years after year zero. -/
def dateIn (era : Int) : Date where
  year := era * 400 + p.yearOfEra + if p.monthFromMarch < 10 then 0 else 1
  month := (if p.monthFromMarch < 10 then p.monthFromMarch + 3 else p.monthFromMarch - 9).toNat
  day := (p.day - (153 * p.monthFromMarch + 2) / 5 + 1).toNat

end Place

theorem ofDays_eq (days : Int) :
    ∃ (era : Int) (p : Place), days + 719468 = era * 146097 + p.number ∧ ofDays days = p.dateIn era := by
  have low : 0 ≤ (days + 719468) % 146097 := Int.emod_nonneg _ (by decide)
  have high : (days + 719468) % 146097 < 146097 := Int.emod_lt_of_pos _ (by decide)
  obtain ⟨p, number⟩ := Place.exists_number low high
  refine ⟨(days + 719468) / 146097, p, by omega, ?_⟩
  have forward : 0 ≤ p.day := p.day_bounds.1
  have short : p.day ≤ 365 := p.day_bounds.2
  simp only [ofDays, ← number, Place.yearOfEra_eq, Place.day_eq, Place.dateIn, Place.monthFromMarch]
  congr 2
  split <;> split <;> omega

theorem Place.yearOfEra_bounds (p : Place) : 0 ≤ p.yearOfEra ∧ p.yearOfEra < 400 := by
  obtain ⟨century, group, year, day, _, _, _, _, _⟩ := p
  simp only [yearOfEra]
  omega

theorem Place.month_bounds (p : Place) : 0 ≤ p.monthFromMarch ∧ p.monthFromMarch ≤ 11 ∧
    (153 * p.monthFromMarch + 2) / 5 ≤ p.day ∧ p.day < (153 * (p.monthFromMarch + 1) + 2) / 5 := by
  have bounds := p.day_bounds
  simp only [monthFromMarch]
  omega

theorem Place.toDays_dateIn (p : Place) (era : Int) :
    (p.dateIn era).toDays = era * 146097 + p.number - 719468 := by
  have number := p.day_eq
  have years := p.yearOfEra_bounds
  have months := p.month_bounds
  have year : (if (p.dateIn era).month ≤ 2 then (p.dateIn era).year - 1 else (p.dateIn era).year) =
      era * 400 + p.yearOfEra := by
    simp only [dateIn]
    split <;> split <;> omega
  have month : (((p.dateIn era).month : Int) + 9) % 12 = p.monthFromMarch := by
    simp only [dateIn]
    split <;> omega
  have day : ((p.dateIn era).day : Int) = p.day - (153 * p.monthFromMarch + 2) / 5 + 1 := by
    simp only [dateIn]
    omega
  simp only [toDays, year, month, day]
  have position : (era * 400 + p.yearOfEra) % 400 = p.yearOfEra := by omega
  have eras : (era * 400 + p.yearOfEra) / 400 = era := by omega
  rw [position, eras]
  omega

theorem toDays_ofDays (days : Int) : (ofDays days).toDays = days := by
  obtain ⟨era, p, split, same⟩ := ofDays_eq days
  rw [same, p.toDays_dateIn]
  omega

/-- A day 365 ends a year before a leap year's first of March. -/
theorem Place.isLeapYear (p : Place) (era : Int) (last : p.day = 365) :
    Date.isLeapYear (era * 400 + p.yearOfEra + 1) = true := by
  obtain ⟨century, group, year, day, centuries, groups, _, _, leap⟩ := p
  obtain ⟨rfl, position⟩ := leap last
  simp only [Date.isLeapYear, yearOfEra, Bool.and_eq_true, Bool.or_eq_true, beq_iff_eq, bne_iff_ne]
  omega

theorem Place.dateIn_valid (p : Place) (era : Int) : (p.dateIn era).isValid = true := by
  have leap := p.isLeapYear era
  have days := p.day_bounds
  obtain ⟨low, high, begun, within⟩ := p.month_bounds
  simp only [isValid, Bool.and_eq_true, decide_eq_true_eq]
  simp only [dateIn]
  refine ⟨by omega, ?_⟩
  generalize p.monthFromMarch = month at low high begun within ⊢
  by_cases february : month = 11
  · rw [february] at begun ⊢
    by_cases last : p.day = 365
    · simp [daysInMonth, leap last, last]
    · have short : 28 ≤ daysInMonth (era * 400 + p.yearOfEra + 1) 2 := by
        simp only [daysInMonth]
        split <;> decide
      exact Nat.le_trans (by omega) short
  · interval_cases month <;> simp [daysInMonth] <;> omega

theorem ofDays_valid (days : Int) : (ofDays days).isValid = true := by
  obtain ⟨era, p, _, same⟩ := ofDays_eq days
  rw [same]
  exact p.dateIn_valid era

theorem bounds_of_valid {d : Date} (valid : d.isValid = true) : d.month < 100 ∧ d.day < 100 := by
  simp only [isValid, Bool.and_eq_true, decide_eq_true_eq] at valid
  have february : (if isLeapYear d.year then 29 else 28) ≤ 29 := by split <;> decide
  unfold daysInMonth at valid
  split at valid <;> omega

/-- A day in the range of instants has its year in the range of years. -/
theorem ofDays_year {t : Instant} (inRange : t.inRange = true) :
    -262143 ≤ (ofDays (t.second / 86400)).year ∧ (ofDays (t.second / 86400)).year ≤ 262142 := by
  obtain ⟨era, p, split, same⟩ := ofDays_eq (t.second / 86400)
  simp only [Instant.inRange, Bool.and_eq_true, decide_eq_true_eq] at inRange
  simp only [Instant.firstSecond, Instant.lastSecond] at inRange
  have years := p.yearOfEra_bounds
  have numbers := p.number_bounds
  rw [same]
  simp only [Place.dateIn, Place.monthFromMarch]
  -- only an era at an end of the range is not settled by its number alone
  constructor
  · by_cases first : era = -656
    · obtain ⟨century, group, year, day, ⟨_, _⟩, _, _, _, _⟩ := p
      simp only [Place.number, Place.yearOfEra] at split ⊢
      rw [first] at split ⊢
      interval_cases century <;> omega
    · omega
  · by_cases last : era = 655
    · obtain ⟨century, group, year, day, ⟨_, _⟩, _, _, _, _⟩ := p
      simp only [Place.number, Place.yearOfEra] at split ⊢
      rw [last] at split ⊢
      interval_cases century <;> omega
    · omega

end Punctual.Date
