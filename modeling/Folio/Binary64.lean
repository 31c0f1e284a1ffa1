/-!
# Binary floating point numbers

Numbers with a significand of 53 bits and a bounded exponent, as exact dyadic
values.  The only arithmetic is `ofRatio`: the number nearest to a quotient of
two natural numbers, where a tie goes to the even significand, small quotients
underflow gradually and large ones become infinite.
-/

namespace Folio

/-- A binary floating point number of 64 bits.  A finite number is
`± significand * 2 ^ exponent`. -/
inductive Binary64
  | finite (negative : Bool) (significand : Nat) (exponent : Int)
  | infinite (negative : Bool)
  | notNumber
  deriving DecidableEq, Inhabited

namespace Binary64

-- Powers of natural numbers, whatever other powers are in scope.
attribute [local instance (2000)] instPowNat

/-- The quotient rounded to a natural number; a tie goes to the even
neighbour. -/
def roundTiesToEven (numerator denominator : Nat) : Nat :=
  let quotient := numerator / denominator
  let remainder := numerator % denominator
  if 2 * remainder < denominator then quotient
  else if denominator < 2 * remainder then quotient + 1
  else quotient + quotient % 2

def reachesPower (numerator denominator : Nat) (power : Int) : Bool :=
  decide (denominator * 2 ^ power.toNat ≤ numerator * 2 ^ (-power).toNat)

def quotientLog (numerator denominator : Nat) : Int :=
  let estimate : Int := (numerator.log2 : Int) - (denominator.log2 : Int)
  if reachesPower numerator denominator estimate then estimate else estimate - 1

def lastPlace (numerator denominator : Nat) : Int :=
  max (-1074) (quotientLog numerator denominator - 52)

def roundedSignificand (numerator denominator : Nat) : Nat :=
  let place := lastPlace numerator denominator
  roundTiesToEven (numerator * 2 ^ (-place).toNat) (denominator * 2 ^ place.toNat)

def exceedsRange (significand : Nat) (exponent : Int) : Bool :=
  decide (2 ^ (1024 : Nat) ≤ significand * 2 ^ exponent.toNat) && decide (0 ≤ exponent)

/-- A finite number whose significand may just have reached the next power of
two: every number has one form. -/
def carry (negative : Bool) (significand : Nat) (exponent : Int) : Binary64 :=
  if significand = 2 ^ (53 : Nat) then
    .finite negative (2 ^ (52 : Nat)) (exponent + 1)
  else .finite negative significand exponent

def ofRatio (negative : Bool) (numerator denominator : Nat) : Binary64 :=
  if numerator = 0 then
    .finite negative 0 0
  else
    let place := lastPlace numerator denominator
    let significand := roundedSignificand numerator denominator
    if exceedsRange significand place then .infinite negative
    else carry negative significand place

def ofInt (value : Int) : Binary64 :=
  ofRatio (value < 0) value.natAbs 1

def numerator (significand : Nat) (exponent : Int) : Nat :=
  significand * 2 ^ exponent.toNat

def denominator (exponent : Int) : Nat :=
  2 ^ (-exponent).toNat

def ceiling (negative : Bool) (significand : Nat) (exponent : Int) : Int :=
  let top := numerator significand exponent
  let bottom := denominator exponent
  if negative then -((top / bottom : Nat) : Int)
  else (((top + (bottom - 1)) / bottom : Nat) : Int)

def floor (negative : Bool) (significand : Nat) (exponent : Int) : Int :=
  -ceiling (!negative) significand exponent

def toInteger? : Binary64 → Option Int
  | .finite negative significand exponent =>
      let top := numerator significand exponent
      let bottom := denominator exponent
      if top % bottom = 0 then
        some (if negative then -((top / bottom : Nat) : Int)
          else ((top / bottom : Nat) : Int))
      else none
  | .infinite _ => none
  | .notNumber => none

def isFinite : Binary64 → Bool
  | .finite _ _ _ => true
  | .infinite _ => false
  | .notNumber => false

def isZero : Binary64 → Bool
  | .finite _ significand _ => significand == 0
  | .infinite _ => false
  | .notNumber => false

/-- The quotient of an integer and a positive integer, correctly rounded. -/
def quotient (dividend : Int) (divisor : Nat) : Binary64 :=
  ofRatio (dividend < 0) dividend.natAbs divisor

/-- The quotient of a number and a positive finite number, rounded. -/
def divideBy (dividend : Binary64) (significand : Nat) (exponent : Int) :
    Binary64 :=
  match dividend with
  | .finite negative dividendSignificand dividendExponent =>
      ofRatio negative
        (numerator dividendSignificand dividendExponent * denominator exponent)
        (denominator dividendExponent * numerator significand exponent)
  | other => other

def aboveFloor (negative : Bool) (significand : Nat) (exponent : Int) : Binary64 :=
  let bottom := denominator exponent
  let part := numerator significand exponent % bottom
  ofRatio false (if negative ∧ part ≠ 0 then bottom - part else part) bottom

/-- The product of the magnitude of a number and a natural number, rounded to a
natural number; a half goes up.  Both the product and its rounding are steps of
their own. -/
def roundedMultiple (factor : Nat) : Binary64 → Nat
  | .finite _ significand exponent =>
      match ofRatio false (numerator significand exponent * factor)
          (denominator exponent) with
      | .finite _ product place =>
          (2 * numerator product place + denominator place) /
            (2 * denominator place)
      | _ => 0
  | _ => 0

end Binary64

end Folio
