/-!
# The calendar

Days of the Gregorian calendar from the first day of the year 1, numbered from
zero, and the dates that they bear.  Main statement: the date of a day number
bears that number.
-/

namespace Folio

-- The zero of natural numbers, whatever other zeros are in scope.
attribute [local instance (2000)] Zero.ofOfNat0

/-- A year, a month and a day, each counted from one. -/
structure Date where
  year : Nat
  month : Nat
  day : Nat
  deriving DecidableEq

namespace Calendar

def isLeap (year : Nat) : Bool :=
  year % 4 == 0 && (year % 100 != 0 || year % 400 == 0)

def yearLength (year : Nat) : Nat :=
  if isLeap year then 366 else 365

def monthLengths (year : Nat) : List Nat :=
  [31, if isLeap year then 29 else 28, 31, 30, 31, 30, 31, 31, 30, 31, 30, 31]

/-- The number of days before the first day of a year. -/
def daysBeforeYear (year : Nat) : Nat :=
  365 * (year - 1) + (year - 1) / 4 - (year - 1) / 100 + (year - 1) / 400

def cycleLength : Nat := 146097

/-- The year of a day that lies `day` days after the start of a year, with the
days after the start of its own. -/
def findYear : Nat → Nat → Nat → Nat × Nat
  | 0, year, day => (year, day)
  | steps + 1, year, day =>
      if day < yearLength year then (year, day)
      else findYear steps (year + 1) (day - yearLength year)

/-- The month of a day that lies `day` days after the start of a month, with the
days after the start of its own. -/
def findMonth : List Nat → Nat → Nat → Nat × Nat
  | [], month, day => (month, day)
  | length :: later, month, day =>
      if day < length then (month, day)
      else findMonth later (month + 1) (day - length)

end Calendar

namespace Date

def isValid (date : Date) : Bool :=
  decide (1 ≤ date.year) && decide (1 ≤ date.month) && decide (1 ≤ date.day) &&
    match (Calendar.monthLengths date.year)[date.month - 1]? with
    | some length => decide (date.day ≤ length)
    | none => false

def dayNumber (date : Date) : Nat :=
  Calendar.daysBeforeYear date.year +
    ((Calendar.monthLengths date.year).take (date.month - 1)).sum +
    (date.day - 1)

def ofDayNumber (number : Nat) : Date :=
  let (yearOfCycle, dayOfYear) :=
    Calendar.findYear 400 1 (number % Calendar.cycleLength)
  let year := yearOfCycle + 400 * (number / Calendar.cycleLength)
  let (month, dayOfMonth) :=
    Calendar.findMonth (Calendar.monthLengths year) 1 dayOfYear
  { year, month, day := dayOfMonth + 1 }

end Date

namespace Calendar

private theorem div_succ (number divisor : Nat) :
    (number + 1) / divisor =
      number / divisor + if (number + 1) % divisor = 0 then 1 else 0 := by
  rw [Nat.succ_div]
  simp only [Nat.dvd_iff_mod_eq_zero]

theorem daysBeforeYear_succ {year : Nat} (positive : 1 ≤ year) :
    daysBeforeYear (year + 1) = daysBeforeYear year + yearLength year := by
  obtain ⟨past, rfl⟩ : ∃ past, year = past + 1 := ⟨year - 1, by omega⟩
  have ofHundred : (past + 1) % 100 = 0 → (past + 1) % 4 = 0 := by omega
  have ofFourHundred : (past + 1) % 400 = 0 → (past + 1) % 100 = 0 := by omega
  have fewer : past / 100 ≤ past / 4 := Nat.div_le_div_left (by decide) (by decide)
  simp only [daysBeforeYear, yearLength, isLeap, Nat.add_sub_cancel,
    div_succ past, Bool.and_eq_true, Bool.or_eq_true, beq_iff_eq, bne_iff_ne,
    ne_eq]
  generalize past / 4 = fours at fewer ⊢
  generalize past / 100 = hundreds at fewer ⊢
  generalize past / 400 = fourHundreds
  by_cases four : (past + 1) % 4 = 0 <;>
    by_cases hundred : (past + 1) % 100 = 0 <;>
    by_cases fourHundred : (past + 1) % 400 = 0 <;>
    simp_all <;> omega

theorem daysBeforeYear_add_cycles {year : Nat} (positive : 1 ≤ year)
    (cycles : Nat) :
    daysBeforeYear (year + 400 * cycles) =
      daysBeforeYear year + cycleLength * cycles := by
  simp only [daysBeforeYear, cycleLength]
  omega

theorem isLeap_add_cycles (year cycles : Nat) :
    isLeap (year + 400 * cycles) = isLeap year := by
  have four : (year + 400 * cycles) % 4 = year % 4 := by omega
  have hundred : (year + 400 * cycles) % 100 = year % 100 := by omega
  have fourHundred : (year + 400 * cycles) % 400 = year % 400 := by omega
  simp only [isLeap, four, hundred, fourHundred]

theorem findYear_sum (steps day : Nat) {year : Nat} (positive : 1 ≤ year) :
    daysBeforeYear (findYear steps year day).1 + (findYear steps year day).2 =
      daysBeforeYear year + day := by
  induction steps generalizing year day with
  | zero => rfl
  | succ steps inductionHypothesis =>
      unfold findYear
      split
      · rfl
      · rw [inductionHypothesis _ (by omega), daysBeforeYear_succ positive]
        omega

theorem findYear_pos (steps day : Nat) {year : Nat} (positive : 1 ≤ year) :
    1 ≤ (findYear steps year day).1 := by
  induction steps generalizing year day with
  | zero => exact positive
  | succ steps inductionHypothesis =>
      unfold findYear
      split
      · exact positive
      · exact inductionHypothesis _ (by omega)

theorem findYear_lt {steps year day : Nat} (positive : 1 ≤ year)
    (bound : daysBeforeYear year + day < daysBeforeYear (year + steps)) :
    (findYear steps year day).2 < yearLength (findYear steps year day).1 := by
  induction steps generalizing year day with
  | zero =>
      rw [Nat.add_zero] at bound
      omega
  | succ steps inductionHypothesis =>
      unfold findYear
      split
      · assumption
      · apply inductionHypothesis (by omega)
        rw [daysBeforeYear_succ positive]
        have shifted : year + 1 + steps = year + (steps + 1) := by omega
        rw [shifted]
        omega

/-- The position of the month that `findMonth` finds, with the days before
it. -/
theorem findMonth_sum {lengths : List Nat} (month : Nat) {day : Nat}
    (bound : day < lengths.sum) :
    ∃ position, position < lengths.length ∧
      (findMonth lengths month day).1 = month + position ∧
      (lengths.take position).sum + (findMonth lengths month day).2 = day ∧
      ∃ length, lengths[position]? = some length ∧
        (findMonth lengths month day).2 < length := by
  induction lengths generalizing month day with
  | nil => simp at bound
  | cons length later inductionHypothesis =>
      unfold findMonth
      split
      · rename_i inside
        exact ⟨0, by simp, by simp, by simp, length, by simp, inside⟩
      · rename_i outside
        have rest : day - length < later.sum := by
          simp only [List.sum_cons] at bound
          omega
        obtain ⟨position, within, found, total, size, sizeAt, small⟩ :=
          inductionHypothesis (month + 1) rest
        refine ⟨position + 1, by simpa using within, by omega, ?_, size,
          by simpa using sizeAt, small⟩
        simp only [List.take_succ_cons, List.sum_cons]
        omega

theorem monthLengths_sum (year : Nat) :
    (monthLengths year).sum = yearLength year := by
  simp only [monthLengths, yearLength]
  split <;> rfl

end Calendar

namespace Date

/-- The date of a day is one of the calendar, and it bears the number of that
day. -/
theorem ofDayNumber_valid_dayNumber (number : Nat) :
    (ofDayNumber number).isValid = true ∧
      (ofDayNumber number).dayNumber = number := by
  have cycleBound :
      Calendar.daysBeforeYear 1 + number % Calendar.cycleLength <
        Calendar.daysBeforeYear (1 + 400) := by
    have remainder := Nat.mod_lt number (show Calendar.cycleLength > 0 by decide)
    have start : Calendar.daysBeforeYear 1 = 0 := by decide
    have finish : Calendar.daysBeforeYear (1 + 400) = Calendar.cycleLength := by
      decide
    omega
  have total := Calendar.findYear_sum 400 (number % Calendar.cycleLength)
    (show 1 ≤ 1 by decide)
  have yearPositive := Calendar.findYear_pos 400 (number % Calendar.cycleLength)
    (show 1 ≤ 1 by decide)
  have small := Calendar.findYear_lt (show 1 ≤ 1 by decide) cycleBound
  have start : Calendar.daysBeforeYear 1 = 0 := by decide
  generalize found : Calendar.findYear 400 1 (number % Calendar.cycleLength) =
    pair at total yearPositive small
  obtain ⟨yearOfCycle, dayOfYear⟩ := pair
  simp only at total yearPositive small
  have sameLength :
      Calendar.yearLength
          (yearOfCycle + 400 * (number / Calendar.cycleLength)) =
        Calendar.yearLength yearOfCycle := by
    simp only [Calendar.yearLength, Calendar.isLeap_add_cycles]
  have dayBound : dayOfYear <
      (Calendar.monthLengths
        (yearOfCycle + 400 * (number / Calendar.cycleLength))).sum := by
    rw [Calendar.monthLengths_sum, sameLength]
    exact small
  obtain ⟨position, within, month, days, size, sizeAt, dayOfMonth⟩ :=
    Calendar.findMonth_sum 1 dayBound
  have before := Calendar.daysBeforeYear_add_cycles yearPositive
    (number / Calendar.cycleLength)
  have split := Nat.div_add_mod number Calendar.cycleLength
  simp only [ofDayNumber, found]
  generalize Calendar.findMonth
    (Calendar.monthLengths
      (yearOfCycle + 400 * (number / Calendar.cycleLength))) 1 dayOfYear =
    monthAndDay at month days dayOfMonth
  obtain ⟨monthFound, dayFound⟩ := monthAndDay
  simp only at month days dayOfMonth
  subst month
  have back : 1 + position - 1 = position := by omega
  constructor
  · simp only [isValid, back, sizeAt, Bool.and_eq_true, decide_eq_true_eq]
    omega
  · simp only [dayNumber, back]
    omega

end Date

end Folio
