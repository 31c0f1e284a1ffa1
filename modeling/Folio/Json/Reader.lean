import Folio.Json
import Folio.Text.Digits
import Folio.Text.Utf8

/-!
# Reading JSON text

A reader that says where a text stops being JSON.  The place of a fault is kept
as the number of code points that were left at it.  The reader takes the number
words `NaN`, `Infinity` and `-Infinity`, and refuses integers of more than 4300
digits and values that are nested more than 900 deep.
-/

namespace Folio.Json

-- Powers of natural numbers, whatever other powers are in scope.
attribute [local instance (2000)] instPowNat

inductive ReadFault
  /-- The text is not JSON; so many code points were left where this showed. -/
  | malformed (remaining : Nat)
  | oversizedInteger
  | tooDeep
  deriving DecidableEq

def faultAt (remaining : List CodePoint) : ReadFault :=
  .malformed remaining.length

def isGap (point : CodePoint) : Bool :=
  point == ' ' || point == '\t' || point == '\n' || point == '\r'

def skipGap (points : List CodePoint) : List CodePoint :=
  points.dropWhile isGap

/-- What follows a mark at the front. -/
def afterMark? (mark : Char) : List CodePoint → Option (List CodePoint)
  | [] => none
  | point :: later => if point = mark then some later else none

/-- The characters at the front, up to the first half of a surrogate pair. -/
def leadingChars : List CodePoint → List Char
  | [] => []
  | point :: later =>
      match point.toChar? with
      | some character => character :: leadingChars later
      | none => []

/-! ## Strings -/

def escaped? (letter : CodePoint) : Option CodePoint :=
  match letter.toChar? with
  | some '"' => some '"'
  | some '\\' => some '\\'
  | some '/' => some '/'
  | some 'b' => some '\x08'
  | some 'f' => some '\x0c'
  | some 'n' => some '\n'
  | some 'r' => some '\r'
  | some 't' => some '\t'
  | _ => none

/-- The code unit of an escape whose letter `u` stands at the front.  A further
code point has to follow the four digits. -/
def unicodeUnit (fromLetter : List CodePoint) :
    Except ReadFault (Nat × List CodePoint) :=
  let digits := leadingChars ((fromLetter.drop 1).take 4)
  let later := fromLetter.drop 5
  match Text.hexNat? digits with
  | some unit =>
      if digits.length = 4 ∧ later ≠ [] then .ok (unit, later)
      else .error (faultAt fromLetter)
  | none => .error (faultAt fromLetter)

def isHighSurrogate (unit : Nat) : Bool :=
  0xD800 ≤ unit && unit < 0xDC00

def isLowSurrogate (unit : Nat) : Bool :=
  0xDC00 ≤ unit && unit < 0xE000

/-- The code point of a `u` escape, with the second half of a surrogate pair if one
follows.  A half that stands alone is a code point of its own. -/
def unicodePoint (fromLetter : List CodePoint) :
    Except ReadFault (CodePoint × List CodePoint) := do
  let (unit, later) ← unicodeUnit fromLetter
  match later with
  | mark :: letter :: tail =>
      if isHighSurrogate unit && mark == '\\' && letter == 'u' &&
          decide (5 ≤ tail.length) then do
        let (second, rest) ← unicodeUnit (letter :: tail)
        if isLowSurrogate second then
          return (.ofNat
            (0x10000 + (unit - 0xD800) * 0x400 + (second - 0xDC00)), rest)
        else return (.ofNat unit, later)
      else return (.ofNat unit, later)
  | _ => return (.ofNat unit, later)

/-- The code points of a string up to its closing quote.  `opening` is the number
of code points left at the opening quote, and each step uses one unit of
`steps`. -/
def readStringFrom (opening : Nat) :
    Nat → List CodePoint → List CodePoint → Except ReadFault (Text × List CodePoint)
  | 0, _, _ => .error (.malformed opening)
  | _ + 1, _, [] => .error (.malformed opening)
  | steps + 1, reversed, point :: later =>
      if point = '"' then .ok (.ofList reversed.reverse, later)
      else if point = '\\' then
        match later with
        | [] => .error (.malformed opening)
        | letter :: rest =>
            if letter = 'u' then do
              let (decoded, rest) ← unicodePoint later
              readStringFrom opening steps (decoded :: reversed) rest
            else
              match escaped? letter with
              | some decoded =>
                  readStringFrom opening steps (decoded :: reversed) rest
              | none => .error (faultAt (point :: later))
      else if point.code < 0x20 then .error (faultAt (point :: later))
      else readStringFrom opening steps (point :: reversed) later

def readString (afterQuote : List CodePoint) :
    Except ReadFault (Text × List CodePoint) :=
  readStringFrom (afterQuote.length + 1) (afterQuote.length + 1) [] afterQuote

/-! ## Numbers -/

/-- The number nearest to `digits * 10 ^ exponent`.  Exponents far outside the
range are answered without building the power. -/
def nearestDecimal (negative : Bool) (digits : List Char) (exponent : Int) :
    Binary64 :=
  let significant := digits.dropWhile (· == '0')
  let magnitude := (significant.length : Int) + exponent
  if significant.isEmpty then .finite negative 0 0
  else if 400 < magnitude then .infinite negative
  else if magnitude < -400 then .finite negative 0 0
  else
    Binary64.ofRatio negative (Text.decimalNat significant * 10 ^ exponent.toNat)
      (10 ^ (-exponent).toNat)

/-- The digits after a decimal point that is followed by a digit. -/
def fractionDigits (characters : List Char) : List Char × List Char :=
  match characters with
  | '.' :: digit :: later =>
      if Text.isDecimal digit then
        ((digit :: later).takeWhile Text.isDecimal, (digit :: later).dropWhile Text.isDecimal)
      else ([], characters)
  | _ => ([], characters)

def exponentPart? (characters : List Char) : Option (Int × List Char) :=
  match characters with
  | mark :: later =>
      if mark = 'e' ∨ mark = 'E' then
        let (negative, unsigned) :=
          match later with
          | '-' :: rest => (true, rest)
          | '+' :: rest => (false, rest)
          | _ => (false, later)
        let digits := unsigned.takeWhile Text.isDecimal
        if digits.isEmpty then none
        else
          let value : Int := Text.decimalNat digits
          some (if negative then -value else value, unsigned.dropWhile Text.isDecimal)
      else none
  | [] => none

/-- The digits before the point: a single zero, or digits without a leading
zero. -/
def integerDigits (characters : List Char) : List Char × List Char :=
  match characters with
  | '0' :: later => (['0'], later)
  | _ => (characters.takeWhile Text.isDecimal, characters.dropWhile Text.isDecimal)

/-- The number at the front, or nothing if it has no digits. -/
def readNumber? (characters : List Char) :
    Option (Except ReadFault Json × List Char) :=
  let (negative, unsigned) :=
    match characters with
    | '-' :: later => (true, later)
    | _ => (false, characters)
  let (whole, afterWhole) := integerDigits unsigned
  if whole.isEmpty then none
  else
    let (fraction, afterFraction) := fractionDigits afterWhole
    match exponentPart? afterFraction with
    | some (exponent, rest) =>
        some (.ok (.real (nearestDecimal negative (whole ++ fraction)
          (exponent - fraction.length))), rest)
    | none =>
        if fraction.isEmpty then
          if 4300 < whole.length then some (.error .oversizedInteger, afterFraction)
          else
            let value : Int := Text.decimalNat whole
            some (.ok (.int (if negative then -value else value)), afterFraction)
        else
          some (.ok (.real (nearestDecimal negative (whole ++ fraction)
            (-(fraction.length : Int)))), afterFraction)

/-! ## Values -/

def words : List (List Char × Json) :=
  [ ("null".toList, .null),
    ("true".toList, .bool true),
    ("false".toList, .bool false),
    ("NaN".toList, .real .notNumber),
    ("Infinity".toList, .real (.infinite false)),
    ("-Infinity".toList, .real (.infinite true)) ]

/-- A word or a number at the front.  A number without digits is a fault at its
first character. -/
def readAtom (points : List CodePoint) : Except ReadFault (Json × List CodePoint) :=
  let characters := leadingChars points
  match words.find? fun word => word.1.isPrefixOf characters with
  | some (word, value) => .ok (value, points.drop word.length)
  | none =>
      match readNumber? characters with
      | some (number, rest) =>
          number.map fun value =>
            (value, points.drop (characters.length - rest.length))
      | none => .error (faultAt points)

def greatestDepth : Nat := 900

mutual

/-- The value at the front, in which arrays and objects are nested no deeper than
`room`.  Every step uses one unit of `steps`; as many units as there are code
points suffice. -/
def readValue :
    Nat → Nat → List CodePoint → Except ReadFault (Json × List CodePoint)
  | 0, _, points => .error (faultAt points)
  | _ + 1, _, [] => .error (faultAt [])
  | steps + 1, room, first :: later =>
      match first.toChar?, room with
      | some '"', _ => do
          let (text, rest) ← readString later
          return (.str text, rest)
      | some '[', 0 => .error .tooDeep
      | some '[', room + 1 =>
          let inner := skipGap later
          match afterMark? ']' inner with
          | some rest => .ok (.arr [], rest)
          | none => do
              let (items, rest) ← readItems steps room inner
              return (.arr items, rest)
      | some '{', 0 => .error .tooDeep
      | some '{', room + 1 =>
          let inner := skipGap later
          match afterMark? '}' inner with
          | some rest => .ok (.obj [], rest)
          | none => do
              let (members, rest) ← readMembers steps room inner
              return (.obj (Members.ofList members), rest)
      | _, _ => readAtom (first :: later)

/-- The items of an array that is not empty, up to its closing bracket. -/
def readItems :
    Nat → Nat → List CodePoint → Except ReadFault (List Json × List CodePoint)
  | 0, _, points => .error (faultAt points)
  | steps + 1, room, points => do
      let (item, later) ← readValue steps room points
      let beyond := skipGap later
      match afterMark? ']' beyond with
      | some rest => return ([item], rest)
      | none =>
          match afterMark? ',' beyond with
          | some rest => do
              let (items, final) ← readItems steps room (skipGap rest)
              return (item :: items, final)
          | none => .error (faultAt beyond)

/-- The members of an object that is not empty, up to its closing brace. -/
def readMembers :
    Nat → Nat → List CodePoint → Except ReadFault (Members × List CodePoint)
  | 0, _, points => .error (faultAt points)
  | steps + 1, room, points =>
      match afterMark? '"' points with
      | none => .error (faultAt points)
      | some afterQuote => do
          let (name, later) ← readString afterQuote
          let beforeMark := skipGap later
          match afterMark? ':' beforeMark with
          | none => .error (faultAt beforeMark)
          | some beforeValue => do
              let (value, afterValue) ← readValue steps room (skipGap beforeValue)
              let beyond := skipGap afterValue
              match afterMark? '}' beyond with
              | some rest => return ([(name, value)], rest)
              | none =>
                  match afterMark? ',' beyond with
                  | some rest => do
                      let (members, final) ← readMembers steps room (skipGap rest)
                      return ((name, value) :: members, final)
                  | none => .error (faultAt beyond)

end

def read (text : Text) : Except ReadFault Json := do
  let points := text.toList
  let (value, later) ← readValue (points.length + 1) greatestDepth (skipGap points)
  match skipGap later with
  | [] => return value
  | other => .error (faultAt other)

def ReadFault.position? (length : Nat) : ReadFault → Option Nat
  | .malformed remaining => some (length - remaining)
  | .oversizedInteger | .tooDeep => none

end Folio.Json
