import Folio.Page
import Mathlib.Tactic.Ring

/-!
# Ceilings of rounded quotients

Rounding a quotient to a floating point number leaves its ceiling, as long as the
dividend has at most 53 bits and the divisor is not too large: then the quotient
is too far above the integer below it to be rounded down to it.
-/

namespace Folio.Binary64

-- Powers of natural numbers, as in the definitions.
attribute [local instance (2000)] instPowNat

/-! ## Rounding to a natural number -/

section Rounding

variable {numerator denominator bound : Nat}

/-- The quotient is rounded down when the remainder is below a half, and up when
it is above. -/
theorem exists_roundTiesToEven_eq (numerator : Nat) (positive : 0 < denominator) :
    ∃ quotient remainder carry,
      numerator = quotient * denominator + remainder ∧ remainder < denominator ∧
        carry ≤ 1 ∧ (2 * remainder < denominator → carry = 0) ∧
        (denominator < 2 * remainder → carry = 1) ∧
        roundTiesToEven numerator denominator = quotient + carry := by
  have division := Nat.div_add_mod' numerator denominator
  have small := Nat.mod_lt numerator positive
  refine ⟨numerator / denominator, numerator % denominator,
    roundTiesToEven numerator denominator - numerator / denominator,
    division.symm, small, ?_⟩
  unfold roundTiesToEven
  dsimp only
  split_ifs <;> omega

/-- Rounding does not go below a natural number. -/
theorem le_roundTiesToEven (positive : 0 < denominator)
    (below : bound * denominator ≤ numerator) :
    bound ≤ roundTiesToEven numerator denominator := by
  obtain ⟨quotient, remainder, carry, rfl, small, -, -, -, rounded⟩ :=
    exists_roundTiesToEven_eq numerator positive
  have less : bound * denominator < (quotient + 1) * denominator := by
    rw [Nat.add_one_mul]
    omega
  have floor := Nat.lt_of_mul_lt_mul_right less
  omega

/-- Rounding does not go above a natural number. -/
theorem roundTiesToEven_le (positive : 0 < denominator)
    (above : numerator ≤ bound * denominator) :
    roundTiesToEven numerator denominator ≤ bound := by
  obtain ⟨quotient, remainder, carry, rfl, small, single, down, -, rounded⟩ :=
    exists_roundTiesToEven_eq numerator positive
  rw [rounded]
  rcases Nat.eq_zero_or_pos remainder with exact | between
  · have least : quotient * denominator ≤ bound * denominator := by omega
    have floor := Nat.le_of_mul_le_mul_right least positive
    have downwards := down (by omega)
    omega
  · have less : quotient * denominator < bound * denominator := by omega
    have floor := Nat.lt_of_mul_lt_mul_right less
    omega

/-- Rounding goes beyond a natural number if the quotient lies beyond the middle
between this and the next one. -/
theorem lt_roundTiesToEven (positive : 0 < denominator)
    (beyond : (2 * bound + 1) * denominator < 2 * numerator) :
    bound < roundTiesToEven numerator denominator := by
  obtain ⟨quotient, remainder, carry, rfl, small, single, -, up, rounded⟩ :=
    exists_roundTiesToEven_eq numerator positive
  rw [rounded]
  have product : 2 * (quotient * denominator) = 2 * quotient * denominator := by
    ring
  have upper : (2 * quotient + 2) * denominator =
      2 * quotient * denominator + 2 * denominator := by
    ring
  have less : (2 * bound + 1) * denominator < (2 * quotient + 2) * denominator := by
    omega
  have ceiling := Nat.lt_of_mul_lt_mul_right less
  by_cases half : denominator < 2 * remainder
  · have upwards := up half
    omega
  · have middle : (2 * quotient + 1) * denominator =
        2 * quotient * denominator + denominator := by
      ring
    have least : (2 * bound + 1) * denominator < (2 * quotient + 1) * denominator := by
      omega
    have floor := Nat.lt_of_mul_lt_mul_right least
    omega

end Rounding

/-! ## The place of a quotient -/

section Place

variable {numerator denominator : Nat}

theorem reachesPower_iff {power : Int} :
    reachesPower numerator denominator power = true ↔
      denominator * 2 ^ power.toNat ≤ numerator * 2 ^ (-power).toNat := by
  rw [reachesPower, decide_eq_true_iff]

theorem reachesPower_quotientLog (denominator : Nat) (positive : 0 < numerator) :
    reachesPower numerator denominator (quotientLog numerator denominator) = true := by
  unfold quotientLog
  dsimp only
  split_ifs with reached
  · exact reached
  · rw [reachesPower_iff]
    have low : 2 ^ numerator.log2 ≤ numerator :=
      Nat.log2_self_le (Nat.ne_of_gt positive)
    have high : denominator < 2 ^ (denominator.log2 + 1) := Nat.lt_log2_self
    generalize numerator.log2 = top at low ⊢
    generalize denominator.log2 = bottom at high ⊢
    rcases Nat.lt_or_ge bottom top with greater | smaller
    · obtain ⟨gap, rfl⟩ := Nat.exists_eq_add_of_lt greater
      have power : ((bottom + gap + 1 : Nat) - (bottom : Int) - 1).toNat = gap := by
        omega
      have unscaled :
          (-((bottom + gap + 1 : Nat) - (bottom : Int) - 1)).toNat = 0 := by
        omega
      rw [power, unscaled]
      calc
        denominator * 2 ^ gap ≤ 2 ^ (bottom + 1) * 2 ^ gap :=
          Nat.mul_le_mul_right _ (Nat.le_of_lt high)
        _ = 2 ^ (bottom + gap + 1) := by ring
        _ ≤ numerator * 2 ^ 0 := by rwa [Nat.pow_zero, Nat.mul_one]
    · obtain ⟨gap, rfl⟩ := Nat.exists_eq_add_of_le smaller
      have unscaled : ((top : Int) - (top + gap : Nat) - 1).toNat = 0 := by
        omega
      have power : (-((top : Int) - (top + gap : Nat) - 1)).toNat = gap + 1 := by
        omega
      rw [power, unscaled]
      calc
        denominator * 2 ^ 0 ≤ 2 ^ (top + gap + 1) := by
          rw [Nat.pow_zero, Nat.mul_one]
          exact Nat.le_of_lt high
        _ = 2 ^ top * 2 ^ (gap + 1) := by ring
        _ ≤ numerator * 2 ^ (gap + 1) := Nat.mul_le_mul_right _ low

/-- The logarithm is at most one below the difference of the logarithms. -/
theorem le_quotientLog (numerator denominator : Nat) :
    (numerator.log2 : Int) - denominator.log2 - 1 ≤
      quotientLog numerator denominator := by
  unfold quotientLog
  dsimp only
  split_ifs <;> omega

end Place

/-! ## Ceilings -/

/-- A number has the ceiling between which and the integer before it lies. -/
theorem ceiling_eq_of_between {significand ceil : Nat} {exponent : Int}
    (above : ceil * denominator exponent <
      numerator significand exponent + denominator exponent)
    (below : numerator significand exponent ≤ ceil * denominator exponent) :
    ceiling false significand exponent = ceil := by
  have positive : 0 < denominator exponent := Nat.two_pow_pos _
  unfold ceiling
  simp only [Bool.false_eq_true, ↓reduceIte, Int.natCast_inj]
  apply Nat.div_eq_of_lt_le
  · omega
  · rw [Nat.add_one_mul]
    omega

theorem ceiling_double (significand : Nat) (exponent : Int) :
    ceiling false (2 * significand) exponent =
      ceiling false significand (exponent + 1) := by
  unfold ceiling numerator denominator
  simp only [Bool.false_eq_true, ↓reduceIte, Int.natCast_inj]
  rcases Int.lt_or_le exponent 0 with negative | whole
  · obtain ⟨scale, rfl⟩ : ∃ scale : Nat, exponent = -((scale : Int) + 1) :=
      ⟨(-exponent - 1).toNat, by omega⟩
    have unscaled : (-((scale : Int) + 1)).toNat = 0 := by omega
    have power : (- -((scale : Int) + 1)).toNat = scale + 1 := by omega
    have nextUnscaled : (-((scale : Int) + 1) + 1).toNat = 0 := by omega
    have nextPower : (-(-((scale : Int) + 1) + 1)).toNat = scale := by omega
    have positive := Nat.two_pow_pos scale
    rw [unscaled, power, nextUnscaled, nextPower, Nat.pow_succ', ← Nat.div_div_eq_div_mul]
    congr 1
    omega
  · obtain ⟨power, rfl⟩ := Int.eq_ofNat_of_zero_le whole
    have next : ((power : Int) + 1).toNat = power + 1 := by omega
    have unscaled : (-(power : Int)).toNat = 0 := by omega
    have nextUnscaled : (-((power : Int) + 1)).toNat = 0 := by omega
    rw [unscaled, nextUnscaled, next, Int.toNat_natCast, Nat.pow_succ']
    congr 2
    ring

theorem ceilingOf_carry (significand : Nat) (exponent : Int) :
    Page.ceilingOf (carry false significand exponent) =
      .ok (ceiling false significand exponent) := by
  unfold carry
  split_ifs with full
  · have double : significand = 2 * 2 ^ 52 := by
      rw [full]
      norm_num
    rw [Page.ceilingOf, double, ceiling_double]
  · rfl

/-! ## Quotients of few bits -/

section Quotient

variable {dividend divisor multiple : Nat}

/-- Rounded to so fine a scale, a quotient stays between the same integers. -/
theorem roundTiesToEven_between (positive : 0 < divisor)
    (above : multiple * divisor < dividend)
    (below : dividend ≤ (multiple + 1) * divisor) {scale : Nat}
    (fine : dividend ≠ (multiple + 1) * divisor →
      divisor < 2 ^ (scale + 1) * (dividend - multiple * divisor)) :
    multiple * 2 ^ scale < roundTiesToEven (dividend * 2 ^ scale) divisor ∧
      roundTiesToEven (dividend * 2 ^ scale) divisor ≤ (multiple + 1) * 2 ^ scale := by
  have regroup : (multiple + 1) * 2 ^ scale * divisor =
      (multiple + 1) * divisor * 2 ^ scale := by
    ring
  constructor
  · by_cases exact : dividend = (multiple + 1) * divisor
    · have least : (multiple + 1) * 2 ^ scale ≤
          roundTiesToEven (dividend * 2 ^ scale) divisor := by
        apply le_roundTiesToEven positive
        rw [regroup, exact]
      have scaled := Nat.two_pow_pos scale
      rw [Nat.add_one_mul] at least
      omega
    · apply lt_roundTiesToEven positive
      obtain ⟨rest, rfl⟩ := Nat.exists_eq_add_of_lt above
      have remainder : multiple * divisor + rest + 1 - multiple * divisor = rest + 1 := by
        omega
      rw [remainder] at fine
      calc
        (2 * (multiple * 2 ^ scale) + 1) * divisor =
            2 * (multiple * divisor) * 2 ^ scale + divisor := by ring
        _ < 2 * (multiple * divisor) * 2 ^ scale + 2 ^ (scale + 1) * (rest + 1) :=
          Nat.add_lt_add_left (fine exact) _
        _ = 2 * ((multiple * divisor + rest + 1) * 2 ^ scale) := by ring
  · apply roundTiesToEven_le positive
    rw [regroup]
    exact Nat.mul_le_mul_right _ below

/-- A quotient below one, or one whose integer part is not too large, is far
enough above the integer below it. -/
theorem fine_of_small (few : dividend ≤ 2 ^ 53)
    (above : multiple * divisor < dividend) {scale : Nat}
    (reached : divisor ≤ dividend * 2 ^ scale) :
    divisor < 2 ^ (scale + 53) * (dividend - multiple * divisor) := by
  have positive := Nat.two_pow_pos scale
  rcases Nat.eq_zero_or_pos multiple with rfl | several
  · rw [Nat.zero_mul] at above
    rw [Nat.zero_mul, Nat.sub_zero]
    calc
      divisor ≤ 1 * (dividend * 2 ^ scale) := by rwa [Nat.one_mul]
      _ < 2 ^ 53 * (dividend * 2 ^ scale) :=
        Nat.mul_lt_mul_of_pos_right (by norm_num) (Nat.mul_pos above positive)
      _ = 2 ^ (scale + 53) * dividend := by ring
  · have rest : 1 ≤ dividend - multiple * divisor := by omega
    calc
      divisor ≤ multiple * divisor := Nat.le_mul_of_pos_left _ several
      _ < dividend := above
      _ ≤ 2 ^ 53 := few
      _ ≤ 2 ^ (scale + 53) := Nat.pow_le_pow_right (by norm_num) (by omega)
      _ ≤ 2 ^ (scale + 53) * (dividend - multiple * divisor) :=
        Nat.le_mul_of_pos_right _ rest

/-- A quotient that is no integer is far enough above the integer below it. -/
theorem fine_of_inexact {power places : Nat} (few : dividend ≤ 2 ^ (power + places))
    (above : multiple * divisor < dividend)
    (below : dividend ≤ (multiple + 1) * divisor)
    (reached : divisor * 2 ^ power ≤ dividend)
    (inexact : dividend ≠ (multiple + 1) * divisor) :
    divisor < 2 ^ places * (dividend - multiple * divisor) := by
  have rest : 1 ≤ dividend - multiple * divisor := by omega
  have least : divisor * 2 ^ power ≤ 2 ^ places * 2 ^ power := by
    rw [← Nat.pow_add, Nat.add_comm places]
    exact Nat.le_trans reached few
  have bounded := Nat.le_of_mul_le_mul_right least (Nat.two_pow_pos power)
  have smaller : divisor < 2 ^ places := by
    apply Nat.lt_of_le_of_ne bounded
    rintro rfl
    apply inexact
    rw [Nat.add_comm power, Nat.pow_add] at few
    obtain rfl := Nat.le_antisymm few reached
    rw [Nat.mul_comm (2 ^ places)] at above below ⊢
    have floor := Nat.lt_of_mul_lt_mul_right above
    have ceil := Nat.le_of_mul_le_mul_right below (Nat.two_pow_pos places)
    rw [Nat.le_antisymm ceil floor]
  exact Nat.lt_of_lt_of_le smaller (Nat.le_mul_of_pos_right _ rest)

/-- The scale of a quotient of few bits is fine enough. -/
theorem fine_of_reachesPower (few : dividend ≤ 2 ^ 53)
    (above : multiple * divisor < dividend)
    (below : dividend ≤ (multiple + 1) * divisor) {power : Int}
    (reached : reachesPower dividend divisor power = true) (low : power ≤ 52)
    (inexact : dividend ≠ (multiple + 1) * divisor) :
    divisor < 2 ^ ((52 - power).toNat + 1) * (dividend - multiple * divisor) := by
  rw [reachesPower_iff] at reached
  rcases Int.lt_or_le power 0 with negative | whole
  · obtain ⟨scale, rfl⟩ : ∃ scale : Nat, power = -(scale : Int) :=
      ⟨(-power).toNat, by omega⟩
    have unscaled : (-(scale : Int)).toNat = 0 := by omega
    have places : (52 - -(scale : Int)).toNat + 1 = scale + 53 := by omega
    rw [unscaled, Int.neg_neg, Int.toNat_natCast, Nat.pow_zero, Nat.mul_one] at reached
    rw [places]
    exact fine_of_small few above reached
  · obtain ⟨exponent, rfl⟩ := Int.eq_ofNat_of_zero_le whole
    have unscaled : (-(exponent : Int)).toNat = 0 := by omega
    have total : exponent + ((52 - (exponent : Int)).toNat + 1) = 53 := by omega
    rw [unscaled, Int.toNat_natCast, Nat.pow_zero, Nat.mul_one] at reached
    apply fine_of_inexact _ above below reached inexact
    rwa [total]

/-- Only one quotient of few bits has so high a logarithm. -/
theorem only_of_reachesPower (few : dividend ≤ 2 ^ 53) (positive : 0 < divisor)
    {power : Int} (reached : reachesPower dividend divisor power = true)
    (high : 53 ≤ power) :
    dividend = 2 ^ 53 ∧ divisor = 1 ∧ power = 53 := by
  obtain ⟨excess, rfl⟩ := Int.le.dest high
  have unscaled : (-(53 + (excess : Int))).toNat = 0 := by omega
  have exponent : (53 + (excess : Int)).toNat = 53 + excess := by omega
  rw [reachesPower_iff, unscaled, exponent, Nat.pow_zero, Nat.mul_one, Nat.pow_add,
    Nat.mul_left_comm] at reached
  have product : divisor * 2 ^ excess ≤ 1 := by
    omega
  have scaled := Nat.two_pow_pos excess
  have ones : divisor * 2 ^ excess = 1 :=
    Nat.le_antisymm product (Nat.mul_pos positive scaled)
  have one : divisor = 1 := Nat.eq_one_of_mul_eq_one_right ones
  have none : excess = 0 := by
    rcases Nat.pow_eq_one.mp (Nat.eq_one_of_mul_eq_one_left ones) with two | none
    · omega
    · exact none
  subst none
  omega

/-- A quotient of few bits, rounded to its last place, stays between the same
integers. -/
theorem roundedSignificand_between (few : dividend ≤ 2 ^ 53) (positive : 0 < divisor)
    (above : multiple * divisor < dividend)
    (below : dividend ≤ (multiple + 1) * divisor)
    (normal : -1022 ≤ quotientLog dividend divisor) :
    multiple * denominator (lastPlace dividend divisor) <
        numerator (roundedSignificand dividend divisor) (lastPlace dividend divisor) ∧
      numerator (roundedSignificand dividend divisor) (lastPlace dividend divisor) ≤
        (multiple + 1) * denominator (lastPlace dividend divisor) := by
  have reached := reachesPower_quotientLog divisor (Nat.zero_lt_of_lt above)
  have place : lastPlace dividend divisor = quotientLog dividend divisor - 52 := by
    unfold lastPlace
    omega
  unfold roundedSignificand numerator denominator
  rw [place]
  generalize quotientLog dividend divisor = power at reached
  dsimp only
  by_cases low : power ≤ 52
  · have unscaled : (power - 52).toNat = 0 := by omega
    have scale : (-(power - 52)).toNat = (52 - power).toNat := by omega
    rw [unscaled, scale, Nat.pow_zero, Nat.mul_one, Nat.mul_one]
    exact roundTiesToEven_between positive above below
      (fine_of_reachesPower few above below reached low)
  · obtain ⟨rfl, rfl, rfl⟩ := only_of_reachesPower few positive reached (by omega)
    have exponent : ((53 : Int) - 52).toNat = 1 := rfl
    have unscaled : (-((53 : Int) - 52)).toNat = 0 := rfl
    have middle : roundTiesToEven (2 ^ 53 * 2 ^ 0) (1 * 2 ^ 1) = 2 ^ 52 := by
      decide +kernel
    rw [exponent, unscaled, middle]
    omega

theorem exceedsRange_eq_false {significand bound : Nat} {exponent : Int}
    (small : bound < 2 ^ (1024 : Nat))
    (below : numerator significand exponent ≤ bound * denominator exponent) :
    exceedsRange significand exponent = false := by
  rw [exceedsRange, Bool.and_eq_false_iff, decide_eq_false_iff_not,
    decide_eq_false_iff_not, Nat.not_le, Int.not_le]
  rcases Int.lt_or_le exponent 0 with negative | whole
  · exact .inr negative
  · left
    have unscaled : (-exponent).toNat = 0 := by omega
    rw [denominator, unscaled, Nat.pow_zero, Nat.mul_one, numerator] at below
    exact Nat.lt_of_le_of_lt below small

theorem two_pow_lt_two_pow (low high : Nat) (smaller : low < high) :
    2 ^ low < 2 ^ high :=
  Nat.pow_lt_pow_right (by decide) smaller

theorem log2_le_of_le_two_pow {number power : Nat} (positive : 0 < number)
    (bounded : number ≤ 2 ^ power) : number.log2 ≤ power := by
  have low : 2 ^ number.log2 ≤ number := Nat.log2_self_le (Nat.ne_of_gt positive)
  exact (Nat.pow_le_pow_iff_right (by decide)).mp (Nat.le_trans low bounded)

theorem normal_of_bounded (positive : 0 < divisor) (bounded : divisor ≤ 2 ^ (1000 : Nat)) :
    -1022 ≤ quotientLog dividend divisor := by
  have low : divisor.log2 ≤ 1000 := log2_le_of_le_two_pow positive bounded
  have least := le_quotientLog dividend divisor
  omega

/-- The ceiling of a quotient of few bits survives the rounding. -/
theorem ceilingOf_ofRatio (few : dividend ≤ 2 ^ 53) (positive : 0 < divisor)
    (bounded : divisor ≤ 2 ^ (1000 : Nat)) (above : multiple * divisor < dividend)
    (below : dividend ≤ (multiple + 1) * divisor) :
    Page.ceilingOf (ofRatio false dividend divisor) = .ok ((multiple + 1 : Nat) : Int) := by
  obtain ⟨least, most⟩ := roundedSignificand_between few positive above below
    (normal_of_bounded positive bounded)
  have small : multiple + 1 < 2 ^ (1024 : Nat) := by
    calc
      multiple + 1 ≤ multiple * divisor + 1 :=
        Nat.add_le_add_right (Nat.le_mul_of_pos_right _ positive) 1
      _ ≤ 2 ^ 53 := Nat.le_trans above few
      _ < 2 ^ (1024 : Nat) := two_pow_lt_two_pow 53 1024 (by decide)
  have inRange := exceedsRange_eq_false small most
  have nonzero : dividend ≠ 0 := Nat.ne_of_gt (Nat.zero_lt_of_lt above)
  unfold ofRatio
  dsimp only
  have between := Nat.add_lt_add_right least (denominator (lastPlace dividend divisor))
  rw [← Nat.add_one_mul] at between
  rw [if_neg nonzero, inRange, if_neg Bool.false_ne_true, ceilingOf_carry,
    ceiling_eq_of_between between most]

/-! ## Quotients in range -/

theorem quotientLog_le (numerator denominator : Nat) :
    quotientLog numerator denominator ≤ (numerator.log2 : Int) - denominator.log2 := by
  unfold quotientLog
  dsimp only
  split_ifs <;> omega

theorem exceedsRange_of_neg (significand : Nat) {exponent : Int}
    (negative : exponent < 0) : exceedsRange significand exponent = false := by
  rw [exceedsRange, Bool.and_eq_false_iff, decide_eq_false_iff_not,
    decide_eq_false_iff_not, Int.not_le]
  exact .inr negative

/-- A quotient whose dividend is not too large is rounded to a finite number. -/
theorem exceedsRange_roundedSignificand (positive : 0 < divisor) (nonzero : 0 < dividend)
    (bounded : dividend ≤ 2 ^ (128 : Nat)) :
    exceedsRange (roundedSignificand dividend divisor) (lastPlace dividend divisor) =
      false := by
  rcases Int.lt_or_le (lastPlace dividend divisor) 0 with negative | whole
  · exact exceedsRange_of_neg _ negative
  · have logarithm := quotientLog_le dividend divisor
    have few : dividend.log2 ≤ 128 := log2_le_of_le_two_pow nonzero bounded
    have place : (lastPlace dividend divisor).toNat ≤ 128 := by
      unfold lastPlace at whole ⊢
      omega
    have unscaled : (-lastPlace dividend divisor).toNat = 0 := by
      omega
    have significand : roundedSignificand dividend divisor ≤ dividend := by
      unfold roundedSignificand
      dsimp only
      have scaled := Nat.mul_pos positive
        (Nat.two_pow_pos (lastPlace dividend divisor).toNat)
      apply roundTiesToEven_le scaled
      rw [unscaled, Nat.pow_zero, Nat.mul_one]
      exact Nat.le_mul_of_pos_right _ scaled
    apply exceedsRange_eq_false (two_pow_lt_two_pow 256 1024 (by decide))
    rw [denominator, unscaled, Nat.pow_zero, Nat.mul_one, numerator]
    calc
      roundedSignificand dividend divisor * 2 ^ (lastPlace dividend divisor).toNat ≤
          2 ^ 128 * 2 ^ 128 :=
        Nat.mul_le_mul (Nat.le_trans significand bounded)
          (Nat.pow_le_pow_right (by decide) place)
      _ = 2 ^ (256 : Nat) := (Nat.pow_add 2 128 128).symm

/-- A finite quotient has a ceiling. -/
theorem exists_ceilingOf_ofRatio (positive : 0 < divisor)
    (bounded : dividend ≤ 2 ^ (128 : Nat)) :
    ∃ ceil, Page.ceilingOf (ofRatio false dividend divisor) = .ok ceil := by
  unfold ofRatio
  split
  · exact ⟨_, rfl⟩
  · rename_i nonzero
    dsimp only
    rw [exceedsRange_roundedSignificand positive (Nat.pos_of_ne_zero nonzero) bounded,
      if_neg Bool.false_ne_true, ceilingOf_carry]
    exact ⟨_, rfl⟩

/-! ## Quotients below one -/

/-- Exactly what is at most a half is rounded to zero. -/
theorem roundTiesToEven_eq_zero_iff {numerator denominator : Nat}
    (positive : 0 < denominator) :
    roundTiesToEven numerator denominator = 0 ↔ 2 * numerator ≤ denominator := by
  constructor
  · intro zero
    by_contra large
    have least : 0 < roundTiesToEven numerator denominator := by
      apply lt_roundTiesToEven positive
      omega
    omega
  · intro small
    have less : numerator < denominator := by omega
    unfold roundTiesToEven
    rw [Nat.div_eq_of_lt less, Nat.mod_eq_of_lt less]
    dsimp only
    split_ifs <;> omega

/-- The logarithm of a quotient of at most one is not positive. -/
theorem exists_power_of_le (nonzero : 0 < dividend) (proper : dividend ≤ divisor) :
    ∃ power : Nat, quotientLog dividend divisor = -(power : Int) ∧
      divisor ≤ dividend * 2 ^ power := by
  have logarithm := quotientLog_le dividend divisor
  have lower : dividend.log2 < divisor.log2 + 1 := by
    apply (Nat.pow_lt_pow_iff_right (by decide : 1 < 2)).mp
    calc
      2 ^ dividend.log2 ≤ dividend := Nat.log2_self_le (Nat.ne_of_gt nonzero)
      _ ≤ divisor := proper
      _ < 2 ^ (divisor.log2 + 1) := Nat.lt_log2_self
  obtain ⟨power, exponent⟩ :
      ∃ power : Nat, quotientLog dividend divisor = -(power : Int) :=
    ⟨(-quotientLog dividend divisor).toNat, by omega⟩
  refine ⟨power, exponent, ?_⟩
  have reached := reachesPower_quotientLog divisor nonzero
  have unscaled : (-(power : Int)).toNat = 0 := by omega
  rwa [exponent, reachesPower_iff, Int.neg_neg, Int.toNat_natCast, unscaled,
    Nat.pow_zero, Nat.mul_one] at reached

/-- A quotient of at most one is rounded to a number of at most one, and to zero
exactly if it is at most half of the least positive number. -/
theorem roundedSignificand_of_le (nonzero : 0 < dividend)
    (proper : dividend ≤ divisor) :
    ∃ scale : Nat, lastPlace dividend divisor = -((scale : Int) + 1) ∧
      roundedSignificand dividend divisor ≤ 2 ^ (scale + 1) ∧
        (roundedSignificand dividend divisor = 0 ↔
          dividend * 2 ^ (1075 : Nat) ≤ divisor) := by
  have positive : 0 < divisor := Nat.lt_of_lt_of_le nonzero proper
  obtain ⟨power, exponent, reaches⟩ := exists_power_of_le nonzero proper
  obtain ⟨scale, place, places⟩ : ∃ scale : Nat,
      lastPlace dividend divisor = -((scale : Int) + 1) ∧
        (power ≤ scale ∧ power ≤ 1022 ∨ scale + 1 = 1074) := by
    refine ⟨(-lastPlace dividend divisor - 1).toNat, ?_⟩
    unfold lastPlace
    omega
  have significand : roundedSignificand dividend divisor =
      roundTiesToEven (dividend * 2 ^ (scale + 1)) divisor := by
    have scaled : (-lastPlace dividend divisor).toNat = scale + 1 := by omega
    have unscaled : (lastPlace dividend divisor).toNat = 0 := by omega
    unfold roundedSignificand
    dsimp only
    rw [scaled, unscaled, Nat.pow_zero, Nat.mul_one]
  have double : 2 * (dividend * 2 ^ (scale + 1)) = dividend * 2 ^ (scale + 2) := by
    ring
  refine ⟨scale, place, ?_, ?_⟩
  · rw [significand]
    apply roundTiesToEven_le positive
    rw [Nat.mul_comm]
    exact Nat.mul_le_mul_left _ proper
  · rw [significand, roundTiesToEven_eq_zero_iff positive, double]
    rcases places with ⟨within, shallow⟩ | deepest
    · have beyond : ∀ higher, power < higher → ¬ dividend * 2 ^ higher ≤ divisor := by
        intro higher above tiny
        have less : dividend * 2 ^ power < dividend * 2 ^ higher :=
          Nat.mul_lt_mul_of_pos_left (two_pow_lt_two_pow power higher above) nonzero
        exact absurd (Nat.le_trans tiny reaches) (Nat.not_le.mpr less)
      exact iff_of_false (beyond (scale + 2) (by omega)) (beyond 1075 (by omega))
    · have half : scale + 2 = 1075 := by omega
      rw [half]

/-- The ceiling of a quotient of at most one is one, unless the quotient is so small
that it is rounded to zero. -/
theorem ceilingOf_ofRatio_of_le (nonzero : 0 < dividend) (proper : dividend ≤ divisor) :
    Page.ceilingOf (ofRatio false dividend divisor) =
      .ok (if dividend * 2 ^ (1075 : Nat) ≤ divisor then 0 else 1) := by
  obtain ⟨scale, place, most, vanishes⟩ := roundedSignificand_of_le nonzero proper
  have inRange : exceedsRange (roundedSignificand dividend divisor)
      (lastPlace dividend divisor) = false :=
    exceedsRange_of_neg _ (by omega)
  have unscaled : (lastPlace dividend divisor).toNat = 0 := by omega
  have scaled : (-lastPlace dividend divisor).toNat = scale + 1 := by omega
  unfold ofRatio
  dsimp only
  rw [if_neg (Nat.ne_of_gt nonzero), inRange, if_neg Bool.false_ne_true, ceilingOf_carry,
    Except.ok.injEq]
  split
  · rename_i tiny
    have zero : ceiling false 0 (lastPlace dividend divisor) = ((0 : Nat) : Int) := by
      apply ceiling_eq_of_between
      · rw [numerator, denominator, Nat.zero_mul, Nat.zero_mul, Nat.zero_add]
        exact Nat.two_pow_pos _
      · rw [numerator, Nat.zero_mul]
        exact Nat.zero_le _
    rw [vanishes.mpr tiny, zero, Int.natCast_zero]
  · rename_i large
    have least : 1 ≤ roundedSignificand dividend divisor := by
      apply Nat.one_le_iff_ne_zero.mpr
      intro zero
      exact large (vanishes.mp zero)
    apply ceiling_eq_of_between
    · rw [numerator, denominator, unscaled, scaled, Nat.pow_zero, Nat.mul_one,
        Nat.one_mul]
      exact Nat.lt_add_of_pos_left least
    · rw [numerator, denominator, unscaled, scaled, Nat.pow_zero, Nat.mul_one,
        Nat.one_mul]
      exact most

end Quotient

end Folio.Binary64
