import Folio.Issue
import Folio.Json
import Folio.Text.Blank
import Folio.Text.Digits

/-!
# Lenient readings

Readings of a raw value as a typed one that also accept other spellings: an
integer may be a string of digits, a truth value may be the word `yes`.  Strings
are never made from other values.
-/

namespace Folio.Json

-- Powers of natural numbers, whatever other powers are in scope.
attribute [local instance (2000)] instPowNat

def asText : Json → Except Complaint Text
  | .str text => .ok text
  | _ => .error .notText

theorem asText_eq_ok_iff {raw : Json} {text : Text} :
    raw.asText = .ok text ↔ raw = .str text := by
  cases raw <;> simp [asText]

/-- A reading of the characters of a text, which have to be encoded for it. -/
def readCharacters {α : Type} (read : String → Except Complaint α) (text : Text) :
    Except Complaint α :=
  match text.toString? with
  | some string => read string
  | none => .error .unreadableText

theorem readCharacters_ofString {α : Type} (read : String → Except Complaint α)
    (string : String) : readCharacters read string = read string := by
  simp [readCharacters]

theorem readCharacters_eq_ok_iff {α : Type} {read : String → Except Complaint α}
    {text : Text} {value : α} :
    readCharacters read text = .ok value ↔
      ∃ string : String, text = string ∧ read string = .ok value := by
  unfold readCharacters
  cases known : text.toString? with
  | none =>
      simp only [reduceCtorEq, false_iff, not_exists, not_and]
      rintro string rfl
      simp at known
  | some string =>
      rw [Text.toString?_eq_some_iff] at known
      subst known
      simp

/-- What is said of a text other than that it is unreadable is said of a string. -/
theorem exists_of_readCharacters_eq_error {α : Type}
    {read : String → Except Complaint α} {text : Text} {complaint : Complaint}
    (refused : readCharacters read text = .error complaint)
    (readable : complaint ≠ .unreadableText) :
    ∃ string : String, text = string ∧ read string = .error complaint := by
  unfold readCharacters at refused
  split at refused
  · rename_i string known
    exact ⟨string, Text.toString?_eq_some_iff.mp known, refused⟩
  · cases refused
    exact absurd rfl readable

def ofLength (minimum : Nat) (string : String) : Except Complaint String :=
  if string.length < minimum then .error (.tooShort minimum) else .ok string

/-- A string of a least length.  Its characters are counted, so it has to consist of
characters. -/
def asTextOfLength (minimum : Nat) (value : Json) : Except Complaint String :=
  match value with
  | .str text => readCharacters (ofLength minimum) text
  | _ => .error .notText

theorem asTextOfLength_eq_ok_iff {minimum : Nat} {value : Json} {string : String} :
    value.asTextOfLength minimum = .ok string ↔
      value = .str string ∧ minimum ≤ string.length := by
  cases value with
  | str text =>
      rw [asTextOfLength, readCharacters_eq_ok_iff]
      constructor
      · rintro ⟨found, rfl, read⟩
        unfold ofLength at read
        split at read
        · cases read
        · rename_i enough
          cases read
          exact ⟨rfl, Nat.le_of_not_lt enough⟩
      · rintro ⟨same, enough⟩
        cases same
        exact ⟨string, rfl, if_neg (Nat.not_lt.mpr enough)⟩
  | _ => simp [asTextOfLength]

/-! ## Integers -/

/-- An underscore stands between any two digits at most, and none at the
ends. -/
def isGrouped (characters : List Char) : Bool :=
  characters.head? != some '_' && characters.getLast? != some '_' &&
    !(characters.zip (characters.drop 1)).contains ('_', '_')

/-- The text without the underscores that group its digits.  Where one is out of
place, all of them stay. -/
def ungroup (characters : List Char) : List Char :=
  if isGrouped characters then characters.filter (· != '_') else characters

/-- The part before a point that only zeros follow; any other text is taken
whole. -/
def dropZeroFraction (characters : List Char) : List Char :=
  match characters.dropWhile (· != '.') with
  | [] => characters
  | _ :: fraction =>
      if fraction ≠ [] ∧ fraction.all (· == '0') then
        characters.takeWhile (· != '.')
      else characters

def opensDigits (character : Char) : Bool :=
  (Text.isDecimal character && character != '0') || character == '-'

/-- What follows zeros at the front.  Underscores may stand among the zeros, and
a minus sign may come after them; `last` is the character that was passed
over. -/
def afterZeros? (last : Char) : List Char → Option (List Char)
  | [] => some [last]
  | character :: later =>
      if character = '0' ∨ character = '_' then afterZeros? character later
      else if opensDigits character then some (character :: later)
      else if character = '.' then some (last :: character :: later)
      else none

/-- A text that starts with a digit, without its leading zeros. -/
def dropZeros? : List Char → Option (List Char)
  | [] => none
  | character :: later =>
      if character = '0' then afterZeros? character later
      else if Text.isDecimal character then some (character :: later)
      else none

def splitSign : List Char → Bool × List Char
  | '-' :: digits => (true, digits)
  | '+' :: digits => (false, digits)
  | digits => (false, digits)

/-- How many characters the integer at the front of a text takes, with its minus
sign. -/
def integerWidth (characters : List Char) : Nat :=
  match characters with
  | '-' :: digits => 1 + (digits.takeWhile Text.isDecimal).length
  | digits => (digits.takeWhile Text.isDecimal).length

def greatestWidth : Nat := 4300

/-- The integer that a whole text denotes: digits without leading zeros, after
at most one minus sign. -/
def plainInteger? (characters : List Char) : Option Int :=
  let (negative, digits) :=
    match characters with
    | '-' :: digits => (true, digits)
    | digits => (false, digits)
  if digits.isEmpty || !digits.all Text.isDecimal ||
      (digits.head? == some '0' && digits.length != 1) then none
  else
    let magnitude : Int := Text.decimalNat digits
    some (if negative then -magnitude else magnitude)

/-- The digits that a text comes down to, with a minus sign if it has one:
blanks around it, a sign, leading zeros, grouping underscores and a fraction of
zeros are taken off. -/
def plainSpelling? (characters : List Char) : Option (List Char) :=
  let (negative, unsigned) := splitSign (Text.trim characters)
  (dropZeros? unsigned).map fun digits =>
    let spelled := ungroup (dropZeroFraction digits)
    if negative then '-' :: spelled else spelled

def startsOversized (characters : List Char) : Bool :=
  let digits :=
    match characters with
    | '-' :: digits => digits
    | digits => digits
  digits.head? != some '0' && decide (greatestWidth < integerWidth characters)

def integerOfText (text : String) : Except Complaint Int :=
  if startsOversized text.toList then .error .oversizedInteger
  else
    match plainSpelling? text.toList with
    | none => .error .unreadableInteger
    | some spelled =>
        if greatestWidth < spelled.length then .error .unreadableInteger
        else
          match plainInteger? spelled with
          | some integer => .ok integer
          | none => .error .unreadableInteger

/-- The integer that a floating point number equals.  Only those of 64 bits are
read, the lowest excepted. -/
def integerOfReal (value : Binary64) : Except Complaint Int :=
  if value.isFinite then
    match value.toInteger? with
    | some integer =>
        if integer.natAbs < 2 ^ (63 : Nat) then .ok integer else .error .oversizedInteger
    | none => .error .fractionalInteger
  else .error .notFinite

/-- An integer: also a truth value, a number without a fraction, and a string
that spells an integer. -/
def asInteger : Json → Except Complaint Int
  | .int value => .ok value
  | .bool value => .ok (if value then 1 else 0)
  | .real value => integerOfReal value
  | .str text => readCharacters integerOfText text
  | _ => .error .notInteger

/-- An integer that is not below a bound, as a natural number. -/
def asNatural (minimum : Nat) (value : Json) : Except Complaint Nat :=
  match value.asInteger with
  | .ok integer =>
      if integer < minimum then .error (.belowMinimum minimum)
      else .ok integer.toNat
  | .error complaint => .error complaint

theorem asNatural_eq_ok_iff {minimum number : Nat} {raw : Json} :
    raw.asNatural minimum = .ok number ↔
      raw.asInteger = .ok (number : Int) ∧ minimum ≤ number := by
  unfold asNatural
  cases raw.asInteger with
  | error complaint => simp
  | ok integer =>
      by_cases low : integer < minimum
      · simp [low]
        omega
      · simp [low]
        omega

/-! ## Truth values -/

def falseWords : List String := ["0", "off", "f", "false", "n", "no"]

def trueWords : List String := ["1", "on", "t", "true", "y", "yes"]

def integerFlag (value : Int) : Except Complaint Bool :=
  if value = 0 then .ok false
  else if value = 1 then .ok true
  else .error .unreadableFlag

def isWord (value : Int) : Bool :=
  decide (-9223372036854775808 ≤ value) && decide (value < 9223372036854775808)

def flagOfText (text : String) : Except Complaint Bool :=
  if text.toLower ∈ falseWords then .ok false
  else if text.toLower ∈ trueWords then .ok true
  else .error .unreadableFlag

/-- A truth value: also the numbers 0 and 1 and a dozen words.  Numbers that are
no integers of 64 bits are refused as a matter of type. -/
def asFlag : Json → Except Complaint Bool
  | .bool value => .ok value
  | .int value => if isWord value then integerFlag value else .error .notFlag
  | .real value =>
      match integerOfReal value with
      | .ok integer => integerFlag integer
      | .error _ => .error .notFlag
  | .str text => readCharacters flagOfText text
  | _ => .error .notFlag

/-! ## Values that may be left open -/

def asOptional {α : Type} (read : Json → Except Complaint α) :
    Json → Except Complaint (Option α)
  | .null => .ok none
  | value => (read value).map some

end Folio.Json
