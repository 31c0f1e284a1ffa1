import Folio.Binary64
import Folio.Instant
import Folio.Issue
import Folio.Json.Lenient
import Folio.Json.Reader

/-!
# Reading instants

An instant is given as a date with an optional time of day and offset, or as a
number of seconds or milliseconds since 1970.  A reading without an offset is
taken to be in coordinated universal time.
-/

namespace Folio

-- Powers of natural numbers, whatever other powers are in scope.
attribute [local instance (2000)] instPowNat

/-- A clock reading with the seconds by which the clock is ahead of coordinated
universal time, if that is known. -/
structure LocalReading where
  reading : ClockReading
  offset? : Option Int
  deriving DecidableEq

namespace LocalReading

/-! ## Dates and times of day -/

def readMark? (mark : Char) : List Char → Option (List Char)
  | character :: later => if character = mark then some later else none
  | [] => none

def readDate? (characters : List Char) : Option (Date × List Char) := do
  let (year, afterYear) ← Text.readDecimal? 4 characters
  let (month, afterMonth) ← Text.readDecimal? 2 (← readMark? '-' afterYear)
  let (day, rest) ← Text.readDecimal? 2 (← readMark? '-' afterMonth)
  let date : Date := { year, month, day }
  if date.isValid then some (date, rest) else none

def isDateMark (character : Char) : Bool :=
  character == 'T' || character == 't' || character == ' ' || character == '_'

def fractionMicroseconds (digits : List Char) : Nat :=
  let kept := digits.take 6
  Text.decimalNat kept * 10 ^ (6 - kept.length)

/-- The fraction of a second at the front, if there is one. -/
def readFraction? : List Char → Option (Nat × List Char)
  | mark :: later =>
      if mark = '.' ∨ mark = ',' then
        let digits := later.takeWhile Text.isDecimal
        if digits.isEmpty then none
        else some (fractionMicroseconds digits, later.dropWhile Text.isDecimal)
      else some (0, mark :: later)
  | [] => some (0, [])

/-- The seconds at the front with their fraction, if there are any. -/
def readSeconds? : List Char → Option (Nat × Nat × List Char)
  | ':' :: later => do
      let (second, afterSecond) ← Text.readDecimal? 2 later
      let (microsecond, rest) ← readFraction? afterSecond
      return (second, microsecond, rest)
  | other => some (0, 0, other)

/-- The offset that a text denotes as a whole; the empty text leaves it open. -/
def readOffset? : List Char → Option (Option Int)
  | [] => some none
  | ['Z'] => some (some 0)
  | ['z'] => some (some 0)
  | sign :: later => do
      let ahead ←
        if sign = '+' then some true
        else if sign = '-' ∨ sign = '−' then some false
        else none
      let (hours, afterHours) ← Text.readDecimal? 2 later
      let afterMark :=
        match afterHours with
        | ':' :: rest => rest
        | other => other
      let (minutes, rest) ← Text.readDecimal? 2 afterMark
      if rest = [] ∧ hours ≤ 23 ∧ minutes ≤ 59 then
        let seconds : Int := ((hours * 60 + minutes) * 60 : Nat)
        some (some (if ahead then seconds else -seconds))
      else none

/-- A date alone, which is midnight, or a date with a time of day. -/
def ofChars? (characters : List Char) : Option LocalReading := do
  let (date, afterDate) ← readDate? characters
  match afterDate with
  | [] =>
      return { reading := { date, hour := 0, minute := 0, second := 0,
                            microsecond := 0 }
               offset? := none }
  | mark :: afterMark => do
      if !isDateMark mark then none
      let (hour, afterHour) ← Text.readDecimal? 2 afterMark
      let (minute, afterMinute) ← Text.readDecimal? 2 (← readMark? ':' afterHour)
      let (second, microsecond, afterSecond) ← readSeconds? afterMinute
      let offset? ← readOffset? afterSecond
      let reading : ClockReading := { date, hour, minute, second, microsecond }
      if reading.isValid then some { reading, offset? } else none

def toInstant (clock : LocalReading) : Except Complaint Instant :=
  let shift : Int := clock.offset?.getD 0 * (microsecondsPerSecond : Int)
  match Instant.ofMicroseconds? ((clock.reading.microseconds : Int) - shift) with
  | some instant => .ok instant
  | none => .error .momentOutOfRange

end LocalReading

namespace Instant

/-! ## Numbers -/

def secondsBefore1970 : Int := 62135596800

def greatestSeconds : Nat := 20000000000

def ofUnixMicroseconds (microseconds : Int) : Except Complaint Instant :=
  match ofMicroseconds?
      (secondsBefore1970 * (microsecondsPerSecond : Int) + microseconds) with
  | some instant => .ok instant
  | none => .error .unreadableMoment

/-- The microseconds of one unit of a number: of a second, or of a millisecond
if the number is great. -/
def unitFor (isGreat : Bool) : Nat :=
  if isGreat then 1000 else microsecondsPerSecond

/-- A number of seconds, or of milliseconds if it is great. -/
def ofInteger (number : Int) : Except Complaint Instant :=
  ofUnixMicroseconds
    (number * (unitFor (greatestSeconds < number.natAbs) : Int))

/-- A number of seconds or milliseconds with a fraction, which is rounded to
microseconds. -/
def ofReal : Binary64 → Except Complaint Instant
  | .finite negative significand exponent =>
      let isGreat :=
        greatestSeconds * Binary64.denominator exponent <
          Binary64.numerator significand exponent
      let unit := unitFor isGreat
      let whole := Binary64.floor negative significand exponent
      let part := Binary64.aboveFloor negative significand exponent
      ofUnixMicroseconds (whole * (unit : Int) + (part.roundedMultiple unit : Int))
  | _ => .error .unreadableMoment

/-- The digits after a point and the exponent after those, up to the end of a
text.  Either may be absent. -/
def fractionAndExponent? (characters : List Char) : Option (List Char × Int) :=
  let digits := characters.takeWhile Text.isDecimal
  match characters.dropWhile Text.isDecimal with
  | [] => some (digits, 0)
  | mark =>
      match Json.exponentPart? mark with
      | some (exponent, []) => some (digits, exponent)
      | _ => none

/-- The number with these digits before its point and this text after it, which
may end in an exponent.  One digit is enough, on either side of the point. -/
def ofFraction (negative : Bool) (whole afterPoint : List Char) :
    Except Complaint Instant :=
  match fractionAndExponent? afterPoint with
  | some (fraction, exponent) =>
      if (whole.isEmpty ∧ fraction.isEmpty) ∨ 2 ^ (63 : Nat) ≤ Text.decimalNat whole then
        .error .unreadableMoment
      else
        ofReal (Json.nearestDecimal negative (whole ++ fraction)
          (exponent - fraction.length))
  | none => .error .unreadableMoment

/-- A decimal number: digits with an optional sign, or a number with a point and
perhaps an exponent. -/
def ofNumberText (characters : List Char) : Except Complaint Instant :=
  let (negative, unsigned) := Json.splitSign characters
  let whole := unsigned.takeWhile Text.isDecimal
  match unsigned.dropWhile Text.isDecimal with
  | [] =>
      if whole.isEmpty then .error .unreadableMoment
      else
        let magnitude : Int := Text.decimalNat whole
        ofInteger (if negative then -magnitude else magnitude)
  | '.' :: afterPoint => ofFraction negative whole afterPoint
  | _ => .error .unreadableMoment

/-! ## Raw values -/

def ofText (text : String) : Except Complaint Instant :=
  match LocalReading.ofChars? text.toList with
  | some clock => clock.toInstant
  | none => ofNumberText text.toList

/-- An instant from a raw value.  Integers beyond the range of floating point
numbers are no numbers of seconds. -/
def ofJson : Json → Except Complaint Instant
  | .str text => Json.readCharacters ofText text
  | .int number =>
      if (Binary64.ofInt number).isFinite then ofInteger number
      else .error .notMoment
  | .real number => ofReal number
  | _ => .error .notMoment

end Instant

end Folio
