import Folio.Binary64

/-!
# Shortest decimal text

The text of a floating point number with the fewest digits that read back as the
same number.  Among equally short texts the nearest to the number is taken, and
of two that are equally near the one with an even last digit.
-/

namespace Folio.Binary64

-- Powers of natural numbers, whatever other powers are in scope.
attribute [local instance (2000)] instPowNat

structure DecimalDigits where
  digits : List Char
  point : Int

def digitCount (value : Nat) : Nat :=
  (Nat.toDigits 10 value).length

/-- The place of the decimal point of a positive quotient: the least `point`
with `numerator / denominator < 10 ^ point`. -/
def decimalPoint (numerator denominator : Nat) : Int :=
  if denominator ≤ numerator then
    digitCount (numerator / denominator)
  else
    1 - (digitCount ((denominator + numerator - 1) / numerator - 1) : Int)

def readsBack (significand : Nat) (exponent : Int) (digits : Nat) (scale : Int) :
    Bool :=
  ofRatio false (digits * 10 ^ scale.toNat) (10 ^ (-scale).toNat) ==
    ofRatio false (numerator significand exponent) (denominator exponent)

/-- The lower of two neighbouring decimals is tried first: the number lies nearer
to it, or in the middle and its last digit is even. -/
def prefersBelow (below remainder bottom : Nat) : Bool :=
  decide (2 * remainder < bottom) ||
    (decide (2 * remainder = bottom) && decide (below % 2 = 0))

def digitsOfLength? (significand : Nat) (exponent point : Int)
    (count : Nat) :
    Option Nat :=
  let scale := point - count
  let top := numerator significand exponent * 10 ^ (-scale).toNat
  let bottom := denominator exponent * 10 ^ scale.toNat
  let below := top / bottom
  let remainder := top % bottom
  let fits := readsBack significand exponent
  if prefersBelow below remainder bottom then
    if fits below scale then some below
    else if fits (below + 1) scale then some (below + 1)
    else none
  else
    if fits (below + 1) scale then some (below + 1)
    else if fits below scale then some below
    else none

/-- The first of the lengths `count, count + 1, …` for which a decimal reads
back, within the given number of trials. -/
def shortestFrom (significand : Nat) (exponent point : Int) :
    Nat → Nat → Nat × Nat
  | 0, count => (0, count)
  | trials + 1, count =>
      match digitsOfLength? significand exponent point count with
      | some digits => (digits, count)
      | none => shortestFrom significand exponent point trials (count + 1)

/-- The shortest decimal digits of a positive finite number.  Seventeen digits
always read back. -/
def shortestDigits (significand : Nat) (exponent : Int) : DecimalDigits :=
  let point := decimalPoint (numerator significand exponent) (denominator exponent)
  let (digits, count) := shortestFrom significand exponent point 17 1
  let written := Nat.toDigits 10 digits
  { digits := (written.reverse.dropWhile (· == '0')).reverse
    point := point + (written.length : Int) - count }

def isPositional (point : Int) : Bool :=
  decide (-4 < point) && decide (point ≤ 16)

def exponentText (exponent : Int) : List Char :=
  let written := Nat.toDigits 10 exponent.natAbs
  (if exponent < 0 then '-' else '+') ::
    (if written.length < 2 then '0' :: written else written)

/-- Decimal digits in positional or in scientific notation.  Positional numbers
always show a fractional part. -/
def DecimalDigits.toText (decimal : DecimalDigits) : List Char :=
  let { digits, point } := decimal
  if isPositional point then
    if point ≤ 0 then
      '0' :: '.' :: (List.replicate (-point).toNat '0' ++ digits)
    else if (digits.length : Int) ≤ point then
      digits ++ List.replicate (point.toNat - digits.length) '0' ++ ['.', '0']
    else
      digits.take point.toNat ++ '.' :: digits.drop point.toNat
  else
    let mantissa :=
      match digits with
      | [] => ['0']
      | [leading] => [leading]
      | leading :: others => leading :: '.' :: others
    mantissa ++ 'e' :: exponentText (point - 1)

def toText : Binary64 → String
  | .finite negative significand exponent =>
      let magnitude :=
        if significand = 0 then ['0', '.', '0']
        else (shortestDigits significand exponent).toText
      String.ofList (if negative then '-' :: magnitude else magnitude)
  | .infinite negative => if negative then "-inf" else "inf"
  | .notNumber => "nan"

end Folio.Binary64
