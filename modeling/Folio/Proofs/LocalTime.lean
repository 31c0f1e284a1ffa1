import Folio.Instant.Reader
import Folio.Proofs.Calendar
import Mathlib.Data.List.Induction

/-!
# Local times and instants

A local time shows the moment that its offset leads back to, and it is read as an
instant exactly if that moment lies in the years 1 to 9999.  A local time without an
offset is read as it stands.  An instant is read back from the text that it is written
as.
-/

namespace Folio

-- Powers of natural numbers, as in the definitions.
attribute [local instance (2000)] instPowNat

namespace Text

theorem decimalValue_lt {digit : Char} (decimal : isDecimal digit = true) :
    decimalValue digit < 10 := by
  simp only [isDecimal, Bool.and_eq_true, decide_eq_true_eq] at decimal
  have last : digit.toNat ≤ '9'.toNat := decimal.2
  have nine : '9'.toNat = 57 := rfl
  rw [decimalValue]
  omega

/-- A number has no more digits than it is written with. -/
theorem decimalNat_lt {digits : List Char} (decimal : digits.all isDecimal = true) :
    decimalNat digits < 10 ^ digits.length := by
  induction digits using List.reverseRecOn with
  | nil => decide
  | append_singleton earlier last inductionHypothesis =>
      rw [List.all_append, Bool.and_eq_true] at decimal
      have before := inductionHypothesis decimal.1
      have digit : decimalValue last < 10 :=
        decimalValue_lt (by simpa using decimal.2)
      rw [decimalNat_append, List.length_append, List.length_singleton, Nat.pow_succ]
      omega

theorem lt_of_readDecimal? {width value : Nat} {characters rest : List Char}
    (read : readDecimal? width characters = some (value, rest)) : value < 10 ^ width := by
  unfold readDecimal? at read
  dsimp only at read
  split at read
  · rename_i digits
    cases read
    have below := decimalNat_lt digits.2
    rwa [digits.1] at below
  · cases read

end Text

namespace Instant

/-- What a clock of coordinated universal time shows at an instant. -/
def reading (instant : Instant) : ClockReading :=
  .ofMicroseconds instant.microseconds

@[simp] theorem isValid_reading (instant : Instant) : instant.reading.isValid = true :=
  ClockReading.isValid_ofMicroseconds instant.microseconds

@[simp] theorem microseconds_reading (instant : Instant) :
    instant.reading.microseconds = instant.microseconds :=
  ClockReading.microseconds_ofMicroseconds instant.microseconds

theorem year_reading_le (instant : Instant) : instant.reading.date.year ≤ 9999 := by
  rw [← ClockReading.microseconds_lt_iff instant.isValid_reading, microseconds_reading]
  exact instant.within

end Instant

namespace LocalReading

variable {clock : LocalReading} {characters rest : List Char}

/-! ## Moments -/

/-- The microseconds from the start of the year 1 to the moment that a clock shows: its
reading without the seconds by which it is ahead. -/
def moment (clock : LocalReading) : Int :=
  (clock.reading.microseconds : Int) - clock.offset?.getD 0 * (microsecondsPerSecond : Int)

theorem toInstant_eq_ok_iff {instant : Instant} :
    clock.toInstant = .ok instant ↔ (instant.microseconds : Int) = clock.moment := by
  obtain ⟨microseconds, within⟩ := instant
  unfold toInstant Instant.ofMicroseconds?
  dsimp only
  rw [← moment]
  by_cases inside : 0 ≤ clock.moment ∧
      clock.moment.toNat < daysOfCalendar * microsecondsPerDay
  · simp [inside]
    omega
  · simp [inside]
    omega

theorem toInstant_eq_error {complaint : Complaint}
    (refused : clock.toInstant = .error complaint) : complaint = .momentOutOfRange := by
  unfold toInstant at refused
  dsimp only at refused
  split at refused
  · cases refused
  · cases refused
    rfl

/-- The moment lies in the years 1 to 9999: a clock of coordinated universal time can
show it. -/
def IsInCalendar (clock : LocalReading) : Prop :=
  ∃ reading : ClockReading, reading.isValid = true ∧ reading.date.year ≤ 9999 ∧
    (reading.microseconds : Int) = clock.moment

theorem exists_toInstant_iff : (∃ instant, clock.toInstant = .ok instant) ↔ clock.IsInCalendar := by
  constructor
  · intro read
    obtain ⟨instant, read⟩ := read
    refine ⟨instant.reading, instant.isValid_reading, instant.year_reading_le, ?_⟩
    rw [instant.microseconds_reading]
    exact toInstant_eq_ok_iff.mp read
  · intro inCalendar
    obtain ⟨reading, valid, year, shown⟩ := inCalendar
    refine ⟨⟨reading.microseconds, (ClockReading.microseconds_lt_iff valid).mpr year⟩, ?_⟩
    exact toInstant_eq_ok_iff.mpr shown

theorem toInstant_eq_error_iff :
    clock.toInstant = .error .momentOutOfRange ↔ ¬ clock.IsInCalendar := by
  rw [← exists_toInstant_iff]
  cases read : clock.toInstant with
  | ok instant => simp
  | error complaint => simp [toInstant_eq_error read]

/-! ## Readings -/

theorem year_lt_of_readDate? {date : Date} (read : readDate? characters = some (date, rest)) :
    date.isValid = true ∧ date.year ≤ 9999 := by
  unfold readDate? at read
  simp only [Option.bind_eq_bind, Option.bind_eq_some_iff, Prod.exists] at read
  obtain ⟨year, afterYear, yearRead, _, _, month, afterMonth, -, _, _, day, _, -, decided⟩ := read
  split at decided
  · rename_i valid
    cases decided
    exact ⟨valid, Nat.le_of_lt_succ (Text.lt_of_readDecimal? yearRead)⟩
  · cases decided

/-- What is read is a reading of a clock, in a year of four digits. -/
theorem isValid_of_ofChars? (read : ofChars? characters = some clock) :
    clock.reading.isValid = true ∧ clock.reading.date.year ≤ 9999 := by
  unfold ofChars? at read
  obtain ⟨⟨date, afterDate⟩, dateRead, timeRead⟩ := Option.bind_eq_some_iff.mp read
  obtain ⟨valid, year⟩ := year_lt_of_readDate? dateRead
  dsimp only at timeRead
  split at timeRead
  · cases timeRead
    exact ⟨ClockReading.isValid_iff.mpr ⟨valid, Nat.zero_le _, Nat.zero_le _, Nat.zero_le _,
      Nat.zero_lt_succ _⟩, year⟩
  · split at timeRead
    · cases timeRead
    · obtain ⟨⟨hour, afterHour⟩, -, timeRead⟩ := Option.bind_eq_some_iff.mp timeRead
      obtain ⟨beforeMinute, -, timeRead⟩ := Option.bind_eq_some_iff.mp timeRead
      obtain ⟨⟨minute, afterMinute⟩, -, timeRead⟩ := Option.bind_eq_some_iff.mp timeRead
      obtain ⟨⟨second, microsecond, afterSecond⟩, -, timeRead⟩ :=
        Option.bind_eq_some_iff.mp timeRead
      obtain ⟨offset?, -, decided⟩ := Option.bind_eq_some_iff.mp timeRead
      dsimp only at decided
      split at decided
      · rename_i valid
        cases decided
        exact ⟨valid, year⟩
      · cases decided

/-! ### Readings without an offset -/

section Unshifted

variable (unshifted : clock.offset? = none)
include unshifted

theorem moment_of_unshifted : clock.moment = clock.reading.microseconds := by
  simp [moment, unshifted]

theorem isInCalendar_of_unshifted (read : ofChars? characters = some clock) :
    clock.IsInCalendar := by
  obtain ⟨valid, year⟩ := isValid_of_ofChars? read
  exact ⟨clock.reading, valid, year, (moment_of_unshifted unshifted).symm⟩

/-- A reading without an offset is kept as it stands. -/
theorem reading_eq_of_unshifted (read : ofChars? characters = some clock) {instant : Instant}
    (shown : (instant.microseconds : Int) = clock.moment) :
    instant.reading = clock.reading := by
  have valid := (isValid_of_ofChars? read).1
  have same : instant.microseconds = clock.reading.microseconds := by
    rw [moment_of_unshifted unshifted] at shown
    exact Int.ofNat_inj.mp shown
  rw [Instant.reading, same, ClockReading.ofMicroseconds_microseconds valid]

end Unshifted

/-! ## Writing and reading back -/

theorem readDate?_written {date : Date} (valid : date.isValid = true)
    (year : date.year ≤ 9999) (rest : List Char) :
    readDate? (Text.fixedDecimal 4 date.year ++ '-' ::
      (Text.fixedDecimal 2 date.month ++ '-' :: (Text.fixedDecimal 2 date.day ++ rest))) =
      some (date, rest) := by
  obtain ⟨-, -, lastMonth, -, lastDay⟩ := Date.isValid_iff.mp valid
  have yearFits : date.year < 10 ^ 4 := Nat.lt_succ_of_le year
  have monthFits : date.month < 10 ^ 2 := by omega
  have dayFits : date.day < 10 ^ 2 := by
    have longest := Calendar.monthLength_le date.year date.month
    omega
  simp [readDate?, readMark?, Text.readDecimal?_fixedDecimal yearFits,
    Text.readDecimal?_fixedDecimal monthFits, Text.readDecimal?_fixedDecimal dayFits, valid]

theorem fractionMicroseconds_fixedDecimal {microsecond : Nat}
    (fraction : microsecond < microsecondsPerSecond) :
    fractionMicroseconds (Text.fixedDecimal 6 microsecond) = microsecond := by
  have fits : microsecond < 10 ^ 6 := fraction
  have six : (Text.fixedDecimal 6 microsecond).take 6 = Text.fixedDecimal 6 microsecond :=
    List.take_of_length_le (Nat.le_of_eq (Text.fixedDecimal_length 6 microsecond))
  unfold fractionMicroseconds
  dsimp only
  rw [six, Text.fixedDecimal_length, Text.decimalNat_fixedDecimal,
    Nat.mod_eq_of_lt fits]
  exact Nat.mul_one microsecond

/-- A fraction of zero is left out, and read where nothing is written. -/
theorem readFraction?_written {microsecond : Nat}
    (fraction : microsecond < microsecondsPerSecond) :
    readFraction? ((if microsecond = 0 then []
        else '.' :: Text.fixedDecimal 6 microsecond) ++ ['Z']) =
      some (microsecond, ['Z']) := by
  by_cases zero : microsecond = 0
  · rw [if_pos zero, zero]
    rfl
  · have decimal : ∀ digit ∈ Text.fixedDecimal 6 microsecond,
        Text.isDecimal digit = true :=
      List.all_eq_true.mp (Text.fixedDecimal_all 6 microsecond)
    have digits : (Text.fixedDecimal 6 microsecond ++ ['Z']).takeWhile Text.isDecimal =
        Text.fixedDecimal 6 microsecond := by
      rw [List.takeWhile_append_of_pos decimal]
      exact List.append_nil _
    have rest : (Text.fixedDecimal 6 microsecond ++ ['Z']).dropWhile Text.isDecimal =
        ['Z'] := by
      rw [List.dropWhile_append_of_pos decimal]
      rfl
    have nonempty : (Text.fixedDecimal 6 microsecond).isEmpty = false := by
      simp [Text.fixedDecimal]
    rw [if_neg zero, List.cons_append]
    simp only [readFraction?, digits, rest, nonempty,
      fractionMicroseconds_fixedDecimal fraction, true_or, ↓reduceIte, Bool.false_eq_true]

/-- A clock reading is read back from the text that it is written as. -/
theorem ofChars?_toChars {reading : ClockReading} (valid : reading.isValid = true)
    (year : reading.date.year ≤ 9999) :
    ofChars? (reading.toChars ++ ['Z']) = some { reading, offset? := some 0 } := by
  obtain ⟨dateValid, hours, minutes, seconds, fraction⟩ := ClockReading.isValid_iff.mp valid
  have hourFits : reading.hour < 10 ^ 2 := by omega
  have minuteFits : reading.minute < 10 ^ 2 := by omega
  have secondFits : reading.second < 10 ^ 2 := by omega
  have mark : isDateMark 'T' = true := rfl
  have universal : readOffset? ['Z'] = some (some 0) := rfl
  simp only [ClockReading.toChars, List.append_assoc, List.cons_append]
  unfold ofChars?
  rw [readDate?_written dateValid year]
  simp [mark, readMark?, Text.readDecimal?_fixedDecimal hourFits,
    Text.readDecimal?_fixedDecimal minuteFits, readSeconds?,
    Text.readDecimal?_fixedDecimal secondFits, readFraction?_written fraction, universal,
    valid]

end LocalReading

namespace Instant

/-- An instant is read back from the text that it is written as. -/
theorem ofText_toText (instant : Instant) : ofText instant.toText = .ok instant := by
  have written : LocalReading.ofChars? instant.toText.toList =
      some { reading := instant.reading, offset? := some 0 } := by
    rw [toText, String.toList_ofList]
    exact LocalReading.ofChars?_toChars instant.isValid_reading instant.year_reading_le
  rw [ofText, written]
  apply LocalReading.toInstant_eq_ok_iff.mpr
  simp [LocalReading.moment]

theorem toText_injective : Function.Injective toText := by
  intro first second same
  have read := ofText_toText first
  rw [same, ofText_toText second] at read
  exact (Except.ok.inj read).symm

/-! ## Moments that are no instants -/

theorem ofUnixMicroseconds_ne_outOfRange (microseconds : Int) :
    ofUnixMicroseconds microseconds ≠ .error .momentOutOfRange := by
  unfold ofUnixMicroseconds
  split <;> nofun

theorem ofReal_ne_outOfRange (number : Binary64) :
    ofReal number ≠ .error .momentOutOfRange := by
  cases number with
  | finite negative significand exponent => exact ofUnixMicroseconds_ne_outOfRange _
  | _ => nofun

theorem ofFraction_ne_outOfRange (negative : Bool) (whole afterPoint : List Char) :
    ofFraction negative whole afterPoint ≠ .error .momentOutOfRange := by
  unfold ofFraction
  split
  · split
    · nofun
    · exact ofReal_ne_outOfRange _
  · nofun

/-- No number is out of the range of the calendar: it is unreadable instead. -/
theorem ofNumberText_ne_outOfRange (characters : List Char) :
    ofNumberText characters ≠ .error .momentOutOfRange := by
  unfold ofNumberText
  dsimp only
  split
  · split
    · nofun
    · exact ofUnixMicroseconds_ne_outOfRange _
  · exact ofFraction_ne_outOfRange _ _ _
  · nofun

/-- Only the moment of a local time can lie outside the calendar. -/
theorem ofJson_eq_outOfRange_iff {raw : Json} :
    ofJson raw = .error .momentOutOfRange ↔
      ∃ (text : String) (clock : LocalReading), raw = .str text ∧
        LocalReading.ofChars? text.toList = some clock ∧ ¬ clock.IsInCalendar := by
  constructor
  · intro refused
    cases raw with
    | str text =>
        obtain ⟨string, rfl, outside⟩ :=
          Json.exists_of_readCharacters_eq_error refused nofun
        rw [ofText] at outside
        split at outside
        · rename_i clock read
          exact ⟨string, clock, rfl, read,
            LocalReading.toInstant_eq_error_iff.mp outside⟩
        · exact absurd outside (ofNumberText_ne_outOfRange _)
    | int number =>
        rw [ofJson] at refused
        split at refused
        · exact absurd refused (ofUnixMicroseconds_ne_outOfRange _)
        · cases refused
    | real number => exact absurd refused (ofReal_ne_outOfRange number)
    | _ => cases refused
  · rintro ⟨text, clock, rfl, read, outside⟩
    rw [ofJson, Json.readCharacters_ofString, ofText, read]
    exact LocalReading.toInstant_eq_error_iff.mpr outside

theorem ofJson_eq_ok_of_clock {text : String} {clock : LocalReading} {instant : Instant}
    (read : LocalReading.ofChars? text.toList = some clock) :
    ofJson (.str text) = .ok instant ↔ (instant.microseconds : Int) = clock.moment := by
  rw [ofJson, Json.readCharacters_ofString, ofText, read]
  exact LocalReading.toInstant_eq_ok_iff

end Instant

end Folio
