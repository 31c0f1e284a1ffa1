import Folio.Calendar
import Folio.Text.Digits

/-!
# Instants

Points in time of the years 1 to 9999, to the microsecond, in coordinated
universal time.
-/

namespace Folio

def microsecondsPerSecond : Nat := 1000000

def microsecondsPerDay : Nat := 86400 * microsecondsPerSecond

def daysOfCalendar : Nat := 3652059

/-- A point in time, counted from the start of the year 1. -/
structure Instant where
  microseconds : Nat
  within : microseconds < daysOfCalendar * microsecondsPerDay
  deriving DecidableEq

structure ClockReading where
  date : Date
  hour : Nat
  minute : Nat
  second : Nat
  microsecond : Nat
  deriving DecidableEq

namespace ClockReading

/-- The parts of a time of day are in their ranges, and the date is one of the
calendar. -/
def isValid (reading : ClockReading) : Bool :=
  reading.date.isValid && decide (reading.hour ≤ 23) &&
    decide (reading.minute ≤ 59) && decide (reading.second ≤ 59) &&
    decide (reading.microsecond < microsecondsPerSecond)

def microseconds (reading : ClockReading) : Nat :=
  reading.date.dayNumber * microsecondsPerDay +
    ((reading.hour * 60 + reading.minute) * 60 + reading.second) *
      microsecondsPerSecond +
    reading.microsecond

/-- The reading of a clock so many microseconds after the start of the year
1. -/
def ofMicroseconds (total : Nat) : ClockReading :=
  let ofDay := total % microsecondsPerDay
  let seconds := ofDay / microsecondsPerSecond
  { date := Date.ofDayNumber (total / microsecondsPerDay)
    hour := seconds / 3600
    minute := seconds / 60 % 60
    second := seconds % 60
    microsecond := ofDay % microsecondsPerSecond }

theorem microseconds_ofMicroseconds (total : Nat) :
    (ofMicroseconds total).microseconds = total := by
  simp only [microseconds, ofMicroseconds,
    (Date.ofDayNumber_valid_dayNumber _).2, microsecondsPerDay,
    microsecondsPerSecond]
  omega

theorem isValid_ofMicroseconds (total : Nat) :
    (ofMicroseconds total).isValid = true := by
  have ofDay := Nat.mod_lt total (show microsecondsPerDay > 0 by decide)
  simp only [isValid, Bool.and_eq_true, ofMicroseconds]
  refine ⟨⟨⟨⟨(Date.ofDayNumber_valid_dayNumber _).1, ?_⟩, ?_⟩, ?_⟩, ?_⟩
  all_goals
    apply decide_eq_true
    simp only [microsecondsPerDay, microsecondsPerSecond] at ofDay ⊢
    omega

/-- The date and the time of day, without a fraction of zero. -/
def toChars (reading : ClockReading) : List Char :=
  Text.fixedDecimal 4 reading.date.year ++ '-' ::
    Text.fixedDecimal 2 reading.date.month ++ '-' ::
    Text.fixedDecimal 2 reading.date.day ++ 'T' ::
    Text.fixedDecimal 2 reading.hour ++ ':' ::
    Text.fixedDecimal 2 reading.minute ++ ':' ::
    Text.fixedDecimal 2 reading.second ++
    (if reading.microsecond = 0 then []
      else '.' :: Text.fixedDecimal 6 reading.microsecond)

end ClockReading

namespace Instant

/-- The instant so many microseconds after the start of the year 1, if it lies
in the calendar. -/
def ofMicroseconds? (microseconds : Int) : Option Instant :=
  if within : 0 ≤ microseconds ∧
      microseconds.toNat < daysOfCalendar * microsecondsPerDay then
    some { microseconds := microseconds.toNat, within := within.2 }
  else none

/-- The instant in words: date, time of day and a `Z`. -/
def toText (instant : Instant) : String :=
  String.ofList
    ((ClockReading.ofMicroseconds instant.microseconds).toChars ++ ['Z'])

end Instant

end Folio
