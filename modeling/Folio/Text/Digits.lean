/-!
# Digits

Decimal and hexadecimal digits, and numbers written with a fixed number of them.
Main statement: a number written with enough digits is read back.
-/

namespace Folio.Text

-- Powers of natural numbers, whatever other powers are in scope.
attribute [local instance (2000)] instPowNat

def isDecimal (character : Char) : Bool :=
  decide ('0' ≤ character) && decide (character ≤ '9')

def decimalValue (character : Char) : Nat :=
  character.toNat - 48

def decimalNat (digits : List Char) : Nat :=
  digits.foldl (fun value digit => 10 * value + decimalValue digit) 0

def hexValue? (character : Char) : Option Nat :=
  if '0' ≤ character ∧ character ≤ '9' then some (character.toNat - 48)
  else if 'a' ≤ character ∧ character ≤ 'f' then some (character.toNat - 87)
  else if 'A' ≤ character ∧ character ≤ 'F' then some (character.toNat - 55)
  else none

def hexNat? (digits : List Char) : Option Nat :=
  digits.foldl
    (fun value? digit => do
      let value ← value?
      let next ← hexValue? digit
      return 16 * value + next)
    (some 0)

def hexDigit (value : Nat) : Char :=
  if value < 10 then Char.ofNat (48 + value) else Char.ofNat (87 + value)

def decimalDigit (value : Nat) : Char :=
  Char.ofNat (48 + value)

def fixedDecimal : Nat → Nat → List Char
  | 0, _ => []
  | width + 1, value =>
      fixedDecimal width (value / 10) ++ [decimalDigit (value % 10)]

def fixedHex : Nat → Nat → List Char
  | 0, _ => []
  | width + 1, value => fixedHex width (value / 16) ++ [hexDigit (value % 16)]

def readDecimal? (width : Nat) (characters : List Char) :
    Option (Nat × List Char) :=
  let digits := characters.take width
  if digits.length = width ∧ digits.all isDecimal then
    some (decimalNat digits, characters.drop width)
  else none

theorem decimalNat_append (left : List Char) (digit : Char) :
    decimalNat (left ++ [digit]) = 10 * decimalNat left + decimalValue digit := by
  simp [decimalNat]

theorem decimalDigit_spec {value : Nat} (small : value < 10) :
    isDecimal (decimalDigit value) = true ∧
      decimalValue (decimalDigit value) = value := by
  have cases : value = 0 ∨ value = 1 ∨ value = 2 ∨ value = 3 ∨ value = 4 ∨
      value = 5 ∨ value = 6 ∨ value = 7 ∨ value = 8 ∨ value = 9 := by omega
  rcases cases with rfl | rfl | rfl | rfl | rfl | rfl | rfl | rfl | rfl | rfl <;>
    decide

@[simp]
theorem fixedDecimal_length (width value : Nat) :
    (fixedDecimal width value).length = width := by
  induction width generalizing value with
  | zero => rfl
  | succ width inductionHypothesis => simp [fixedDecimal, inductionHypothesis]

theorem fixedDecimal_all (width value : Nat) :
    (fixedDecimal width value).all isDecimal = true := by
  induction width generalizing value with
  | zero => rfl
  | succ width inductionHypothesis =>
      simp only [fixedDecimal, List.all_append, inductionHypothesis,
        List.all_cons, List.all_nil, Bool.and_true, Bool.true_and]
      exact (decimalDigit_spec (Nat.mod_lt value (by decide))).1

theorem decimalNat_fixedDecimal (width value : Nat) :
    decimalNat (fixedDecimal width value) = value % 10 ^ width := by
  induction width generalizing value with
  | zero => simp [fixedDecimal, decimalNat, Nat.mod_one]
  | succ width inductionHypothesis =>
      rw [fixedDecimal, decimalNat_append, inductionHypothesis,
        (decimalDigit_spec (Nat.mod_lt value (by decide))).2, Nat.pow_succ,
        Nat.mul_comm (10 ^ width) 10, Nat.mod_mul]
      omega

theorem readDecimal?_fixedDecimal {width value : Nat}
    (fits : value < 10 ^ width) (rest : List Char) :
    readDecimal? width (fixedDecimal width value ++ rest) = some (value, rest) := by
  have taken : (fixedDecimal width value ++ rest).take width =
      fixedDecimal width value := by
    simp
  have dropped : (fixedDecimal width value ++ rest).drop width = rest := by
    simp
  simp [readDecimal?, taken, dropped, fixedDecimal_all,
    decimalNat_fixedDecimal, Nat.mod_eq_of_lt fits]

end Folio.Text
