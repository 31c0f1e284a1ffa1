import Folio.Instant
import Mathlib.Logic.Function.Iterate

/-!
# Days that follow one another

The number of a date counts the days since the first day of the year 1, where each day
follows the one before it by the rules of the calendar.  Dates are settled by their
numbers, and clock readings by the microseconds that have gone by.
-/

namespace Folio

-- The zero of natural numbers, as in the definitions.
attribute [local instance (2000)] Zero.ofOfNat0

/-! ## Months and years -/

namespace Calendar

def monthLength (year month : Nat) : Nat :=
  (monthLengths year)[month - 1]?.getD 0

/-- The number of days of a year before the first day of a month. -/
def daysBeforeMonth (year month : Nat) : Nat :=
  ((monthLengths year).take (month - 1)).sum

theorem daysBeforeYear_le {year later : Nat} (order : year ≤ later) :
    daysBeforeYear year ≤ daysBeforeYear later := by
  rcases Nat.lt_or_eq_of_le order with earlier | same
  · unfold daysBeforeYear
    omega
  · exact Nat.le_of_eq (congrArg daysBeforeYear same)

theorem daysBeforeMonth_succ (year : Nat) {month : Nat} (first : 1 ≤ month)
    (last : month ≤ 12) :
    daysBeforeMonth year (month + 1) =
      daysBeforeMonth year month + monthLength year month := by
  have within : month - 1 < (monthLengths year).length := by
    have twelve : (monthLengths year).length = 12 := rfl
    omega
  have shifted : month + 1 - 1 = (month - 1) + 1 := by omega
  unfold daysBeforeMonth monthLength
  rw [shifted, List.take_add_one, List.getElem?_eq_getElem within, List.sum_append,
    Option.toList_some, List.sum_singleton, Option.getD_some]

theorem daysBeforeMonth_le (year : Nat) {month later : Nat} (first : 1 ≤ month)
    (order : month ≤ later) (last : later ≤ 13) :
    daysBeforeMonth year month ≤ daysBeforeMonth year later := by
  induction order with
  | refl => exact Nat.le_refl _
  | @step later order inductionHypothesis =>
      have before := inductionHypothesis (by omega)
      rw [daysBeforeMonth_succ year (Nat.le_trans first order) (by omega)]
      omega

theorem monthLength_le (year month : Nat) : monthLength year month ≤ 31 := by
  unfold monthLength
  cases found : (monthLengths year)[month - 1]? with
  | none => exact Nat.zero_le 31
  | some length =>
      have present := List.mem_of_getElem? found
      simp only [monthLengths, List.mem_cons, List.not_mem_nil, or_false] at present
      rw [Option.getD_some]
      split at present <;> omega

/-- The thirteenth month would begin with the next year. -/
theorem daysBeforeMonth_thirteen (year : Nat) :
    daysBeforeMonth year 13 = yearLength year :=
  monthLengths_sum year

end Calendar

/-! ## Dates -/

namespace Date

open Calendar

variable {date other : Date}

theorem isValid_iff :
    date.isValid = true ↔
      1 ≤ date.year ∧ 1 ≤ date.month ∧ date.month ≤ 12 ∧ 1 ≤ date.day ∧
        date.day ≤ monthLength date.year date.month := by
  unfold isValid monthLength
  cases found : (monthLengths date.year)[date.month - 1]? with
  | none =>
      simp only [Bool.and_false, Bool.false_eq_true, Option.getD_none, false_iff]
      omega
  | some length =>
      have within : date.month - 1 < (monthLengths date.year).length :=
        (List.getElem?_eq_some_iff.mp found).1
      have twelve : (monthLengths date.year).length = 12 := rfl
      simp only [Bool.and_eq_true, decide_eq_true_eq, Option.getD_some]
      omega

theorem dayNumber_eq (date : Date) :
    date.dayNumber =
      daysBeforeYear date.year + daysBeforeMonth date.year date.month + (date.day - 1) :=
  rfl

/-- A day of a month lies before the next month. -/
theorem dayOfYear_lt (valid : date.isValid = true) :
    daysBeforeMonth date.year date.month + (date.day - 1) <
      daysBeforeMonth date.year (date.month + 1) := by
  obtain ⟨-, firstMonth, lastMonth, firstDay, lastDay⟩ := isValid_iff.mp valid
  rw [daysBeforeMonth_succ date.year firstMonth lastMonth]
  omega

/-- A day of a year lies before the next year. -/
theorem dayNumber_lt (valid : date.isValid = true) :
    date.dayNumber < daysBeforeYear (date.year + 1) := by
  obtain ⟨firstYear, firstMonth, lastMonth, -⟩ := isValid_iff.mp valid
  have ofYear := dayOfYear_lt valid
  have months := daysBeforeMonth_le date.year (by omega)
    (show date.month + 1 ≤ 13 by omega) (Nat.le_refl 13)
  rw [daysBeforeMonth_thirteen] at months
  rw [dayNumber_eq, daysBeforeYear_succ firstYear]
  omega

theorem daysBeforeYear_le_dayNumber (date : Date) :
    daysBeforeYear date.year ≤ date.dayNumber := by
  rw [dayNumber_eq]
  omega

theorem year_le_of_dayNumber_le (valid : date.isValid = true)
    (order : other.dayNumber ≤ date.dayNumber) : other.year ≤ date.year := by
  apply Nat.le_of_not_lt
  intro later
  have years : daysBeforeYear (date.year + 1) ≤ daysBeforeYear other.year :=
    daysBeforeYear_le later
  have start := daysBeforeYear_le_dayNumber other
  have finish := dayNumber_lt valid
  omega

theorem month_le_of_dayNumber_le (valid : date.isValid = true)
    (otherValid : other.isValid = true) (sameYear : other.year = date.year)
    (order : other.dayNumber ≤ date.dayNumber) : other.month ≤ date.month := by
  apply Nat.le_of_not_lt
  intro later
  obtain ⟨-, -, otherLast, -⟩ := isValid_iff.mp otherValid
  have months : daysBeforeMonth date.year (date.month + 1) ≤
      daysBeforeMonth date.year other.month :=
    daysBeforeMonth_le date.year (Nat.le_add_left 1 _) later (by omega)
  have finish := dayOfYear_lt valid
  rw [dayNumber_eq, dayNumber_eq, sameYear] at order
  omega

/-- Two dates of the calendar do not bear the same number. -/
theorem eq_of_dayNumber_eq (valid : date.isValid = true)
    (otherValid : other.isValid = true) (same : date.dayNumber = other.dayNumber) :
    date = other := by
  have sameYear : date.year = other.year :=
    Nat.le_antisymm (year_le_of_dayNumber_le otherValid (Nat.le_of_eq same))
      (year_le_of_dayNumber_le valid (Nat.le_of_eq same.symm))
  have sameMonth : date.month = other.month :=
    Nat.le_antisymm
      (month_le_of_dayNumber_le otherValid valid sameYear (Nat.le_of_eq same))
      (month_le_of_dayNumber_le valid otherValid sameYear.symm (Nat.le_of_eq same.symm))
  have sameDay : date.day = other.day := by
    obtain ⟨-, -, -, firstDay, -⟩ := isValid_iff.mp valid
    obtain ⟨-, -, -, otherFirst, -⟩ := isValid_iff.mp otherValid
    rw [dayNumber_eq, dayNumber_eq, sameYear, sameMonth] at same
    omega
  cases date
  cases other
  simp_all

theorem ofDayNumber_dayNumber (valid : date.isValid = true) :
    ofDayNumber date.dayNumber = date := by
  obtain ⟨found, number⟩ := ofDayNumber_valid_dayNumber date.dayNumber
  exact eq_of_dayNumber_eq found valid number

/-- The days of the years up to 9999 are those of the calendar. -/
theorem dayNumber_lt_iff (valid : date.isValid = true) :
    date.dayNumber < daysOfCalendar ↔ date.year ≤ 9999 := by
  have whole : daysBeforeYear 10000 = daysOfCalendar := by decide
  constructor
  · intro within
    apply Nat.le_of_not_lt
    intro beyond
    have years : daysBeforeYear 10000 ≤ daysBeforeYear date.year :=
      daysBeforeYear_le beyond
    have start := daysBeforeYear_le_dayNumber date
    omega
  · intro within
    have years : daysBeforeYear (date.year + 1) ≤ daysBeforeYear 10000 :=
      daysBeforeYear_le (Nat.succ_le_succ within)
    have finish := dayNumber_lt valid
    omega

/-! ### The next day -/

def first : Date where
  year := 1
  month := 1
  day := 1

/-- The day after a date: the next of the month, or else the first of the next month,
or else the first of the next year. -/
def next (date : Date) : Date :=
  if date.day < monthLength date.year date.month then
    { date with day := date.day + 1 }
  else if date.month < 12 then
    { year := date.year, month := date.month + 1, day := 1 }
  else { year := date.year + 1, month := 1, day := 1 }

/-- The first day of a month is one of the calendar. -/
theorem isValid_firstOfMonth {year month : Nat} (firstYear : 1 ≤ year)
    (firstMonth : 1 ≤ month) (lastMonth : month ≤ 12) :
    ({ year, month, day := 1 } : Date).isValid = true := by
  have nonempty : ∀ length ∈ monthLengths year, 1 ≤ length := by
    intro length present
    simp only [monthLengths, List.mem_cons, List.not_mem_nil, or_false] at present
    split at present <;> omega
  have within : month - 1 < (monthLengths year).length := by
    have twelve : (monthLengths year).length = 12 := rfl
    omega
  have positive : 1 ≤ monthLength year month := by
    rw [monthLength, List.getElem?_eq_getElem within]
    exact nonempty _ (List.getElem_mem within)
  exact isValid_iff.mpr ⟨firstYear, firstMonth, lastMonth, Nat.le_refl 1, positive⟩

/-- The next day is one of the calendar and bears the next number. -/
theorem next_valid_dayNumber (valid : date.isValid = true) :
    date.next.isValid = true ∧ date.next.dayNumber = date.dayNumber + 1 := by
  obtain ⟨firstYear, firstMonth, lastMonth, firstDay, lastDay⟩ := isValid_iff.mp valid
  unfold next
  split
  · rename_i inMonth
    constructor
    · apply isValid_iff.mpr
      exact ⟨firstYear, firstMonth, lastMonth, Nat.le_add_left 1 _, inMonth⟩
    · simp only [dayNumber_eq]
      omega
  · split
    · rename_i ends inYear
      have nextMonth := daysBeforeMonth_succ date.year firstMonth lastMonth
      constructor
      · exact isValid_firstOfMonth firstYear (Nat.le_add_left 1 _) inYear
      · simp only [dayNumber_eq, nextMonth]
        omega
    · rename_i ends yearEnds
      have december : date.month = 12 := by omega
      have nextMonth := daysBeforeMonth_succ date.year firstMonth lastMonth
      rw [december, daysBeforeMonth_thirteen] at nextMonth
      rw [december] at ends lastDay
      have start : daysBeforeMonth (date.year + 1) 1 = 0 := rfl
      constructor
      · exact isValid_firstOfMonth (Nat.le_add_left 1 _) (Nat.le_refl 1) (by decide)
      · simp only [dayNumber_eq, daysBeforeYear_succ firstYear, december, start]
        omega

theorem iterate_next_first (days : Nat) : next^[days] first = ofDayNumber days := by
  induction days with
  | zero => decide
  | succ days inductionHypothesis =>
      obtain ⟨valid, number⟩ := ofDayNumber_valid_dayNumber days
      obtain ⟨nextValid, nextNumber⟩ := next_valid_dayNumber valid
      obtain ⟨found, foundNumber⟩ := ofDayNumber_valid_dayNumber (days + 1)
      rw [Function.iterate_succ_apply', inductionHypothesis]
      apply eq_of_dayNumber_eq nextValid found
      rw [nextNumber, number, foundNumber]

/-- As many days as the number of a date lead from the first day to it. -/
theorem iterate_next_dayNumber (valid : date.isValid = true) :
    next^[date.dayNumber] first = date := by
  rw [iterate_next_first, ofDayNumber_dayNumber valid]

end Date

/-! ## Clock readings -/

namespace ClockReading

variable {reading : ClockReading}

/-- The microseconds since midnight. -/
def timeOfDay (reading : ClockReading) : Nat :=
  ((reading.hour * 60 + reading.minute) * 60 + reading.second) * microsecondsPerSecond +
    reading.microsecond

theorem isValid_iff :
    reading.isValid = true ↔
      reading.date.isValid = true ∧ reading.hour ≤ 23 ∧ reading.minute ≤ 59 ∧
        reading.second ≤ 59 ∧ reading.microsecond < microsecondsPerSecond := by
  simp only [isValid, Bool.and_eq_true, decide_eq_true_eq, and_assoc]

theorem microseconds_eq (reading : ClockReading) :
    reading.microseconds =
      reading.date.dayNumber * microsecondsPerDay + reading.timeOfDay :=
  Nat.add_assoc _ _ _

theorem timeOfDay_lt (valid : reading.isValid = true) :
    reading.timeOfDay < microsecondsPerDay := by
  obtain ⟨-, hours, minutes, seconds, fraction⟩ := isValid_iff.mp valid
  simp only [timeOfDay, microsecondsPerDay, microsecondsPerSecond] at fraction ⊢
  omega

/-- A clock reading is found again from the microseconds that have gone by. -/
theorem ofMicroseconds_microseconds (valid : reading.isValid = true) :
    ofMicroseconds reading.microseconds = reading := by
  obtain ⟨dateValid, hours, minutes, seconds, fraction⟩ := isValid_iff.mp valid
  have below := timeOfDay_lt valid
  have days : reading.microseconds / microsecondsPerDay = reading.date.dayNumber := by
    rw [microseconds_eq, Nat.add_comm, Nat.add_mul_div_right _ _ (by decide),
      Nat.div_eq_of_lt below, Nat.zero_add]
  have rest : reading.microseconds % microsecondsPerDay = reading.timeOfDay := by
    rw [microseconds_eq, Nat.add_comm, Nat.add_mul_mod_self_right,
      Nat.mod_eq_of_lt below]
  simp only [ofMicroseconds, days, rest, Date.ofDayNumber_dayNumber dateValid]
  obtain ⟨date, hour, minute, second, microsecond⟩ := reading
  simp only [timeOfDay, microsecondsPerSecond] at hours minutes seconds fraction ⊢
  rw [ClockReading.mk.injEq]
  refine ⟨rfl, ?_, ?_, ?_, ?_⟩ <;> omega

/-- The readings of the years up to 9999 are those of instants. -/
theorem microseconds_lt_iff (valid : reading.isValid = true) :
    reading.microseconds < daysOfCalendar * microsecondsPerDay ↔
      reading.date.year ≤ 9999 := by
  rw [← Date.dayNumber_lt_iff (isValid_iff.mp valid).1, microseconds_eq]
  have below := timeOfDay_lt valid
  simp only [microsecondsPerDay, microsecondsPerSecond] at below ⊢
  omega

end ClockReading

end Folio
