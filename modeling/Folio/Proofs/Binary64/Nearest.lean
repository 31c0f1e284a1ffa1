import Folio.Proofs.Binary64
import Mathlib.Algebra.Order.Field.Power
import Mathlib.Data.Rat.Floor
import Mathlib.Tactic.FieldSimp
import Mathlib.Tactic.Linarith
import Mathlib.Tactic.Positivity

/-!
# Rounding to the nearest number

A rounded quotient is the number nearest to the exact one.  Of two numbers that are
equally near, it is the one with the even significand, and quotients close to zero have
fewer bits.  The value of a number is taken as a rational number.
-/

namespace Folio.Binary64

-- Powers of natural numbers, as in the definitions.
attribute [local instance (2000)] instPowNat

/-! ## Values -/

def value (significand : Nat) (exponent : Int) : ℚ :=
  significand * 2 ^ exponent

/-- The values of finite numbers without a sign, but for the bound of the range. -/
def IsNumber (number : ℚ) : Prop :=
  ∃ significand exponent, significand < 2 ^ 53 ∧ -1074 ≤ exponent ∧
    number = value significand exponent

/-- A number in its one form, which is the nearest to a quotient. -/
structure IsNearest (quotient : ℚ) (significand : Nat) (exponent : Int) : Prop where
  bits : significand < 2 ^ 53
  least : -1074 ≤ exponent
  normal : 2 ^ 52 ≤ significand ∨ exponent = -1074 ∨ significand = 0
  nearest : ∀ other, IsNumber other →
    |value significand exponent - quotient| ≤ |other - quotient|
  /-- Of two numbers that are equally near, the even one is taken. -/
  even : ∀ other, IsNumber other →
    |other - quotient| = |value significand exponent - quotient| →
      other ≠ value significand exponent → significand % 2 = 0

theorem two_zpow_eq (exponent : Int) :
    (2 : ℚ) ^ exponent = 2 ^ exponent.toNat / 2 ^ (-exponent).toNat := by
  rcases Int.le_total 0 exponent with whole | negative
  · obtain ⟨power, rfl⟩ := Int.eq_ofNat_of_zero_le whole
    have unscaled : (-(power : Int)).toNat = 0 := by omega
    rw [unscaled, Int.toNat_natCast, zpow_natCast, pow_zero, div_one]
  · obtain ⟨power, same⟩ := Int.eq_ofNat_of_zero_le (Int.neg_nonneg_of_nonpos negative)
    obtain rfl : exponent = -(power : Int) := by omega
    have unscaled : (-(power : Int)).toNat = 0 := by omega
    rw [unscaled, Int.neg_neg, Int.toNat_natCast, zpow_neg, zpow_natCast, pow_zero, one_div]

theorem value_eq (significand : Nat) (exponent : Int) :
    value significand exponent = numerator significand exponent / denominator exponent := by
  rw [value, two_zpow_eq, numerator, denominator]
  push_cast
  ring

/-- The ceiling of a quotient of natural numbers. -/
theorem ceil_natCast_div {dividend divisor : Nat} (positive : 0 < divisor) :
    ⌈(dividend : ℚ) / divisor⌉ = ((dividend + (divisor - 1)) / divisor : Nat) := by
  have division := Nat.div_add_mod' (dividend + (divisor - 1)) divisor
  have small := Nat.mod_lt (dividend + (divisor - 1)) positive
  generalize (dividend + (divisor - 1)) / divisor = ceil at division ⊢
  have scale : (0 : ℚ) < divisor := by exact_mod_cast positive
  rw [Int.ceil_eq_iff, lt_div_iff₀ scale, div_le_iff₀ scale]
  constructor
  · have above : ceil * divisor < dividend + divisor := by omega
    have cast : (ceil : ℚ) * divisor < dividend + divisor := by exact_mod_cast above
    push_cast
    linarith
  · have below : dividend ≤ ceil * divisor := by omega
    exact_mod_cast below

theorem ceiling_eq_ceil (significand : Nat) (exponent : Int) :
    ceiling false significand exponent = ⌈value significand exponent⌉ := by
  have positive : 0 < denominator exponent := Nat.two_pow_pos _
  rw [value_eq, ceil_natCast_div positive, ceiling]
  rfl

/-! ## The place of a quotient -/

section Place

variable {dividend divisor : Nat}

theorem reachesPower_iff_le (positive : 0 < divisor) {power : Int} :
    reachesPower dividend divisor power = true ↔
      (2 : ℚ) ^ power ≤ dividend / divisor := by
  have scale : (0 : ℚ) < divisor := by exact_mod_cast positive
  rw [reachesPower_iff, two_zpow_eq, div_le_div_iff₀ (by positivity) scale,
    mul_comm (divisor : Nat)]
  norm_cast

theorem two_zpow_quotientLog_le (positive : 0 < divisor) (nonzero : 0 < dividend) :
    (2 : ℚ) ^ quotientLog dividend divisor ≤ dividend / divisor :=
  (reachesPower_iff_le positive).mp (reachesPower_quotientLog divisor nonzero)

theorem lt_two_zpow_quotientLog (positive : 0 < divisor) :
    (dividend : ℚ) / divisor < 2 ^ (quotientLog dividend divisor + 1) := by
  have scale : (0 : ℚ) < divisor := by exact_mod_cast positive
  unfold quotientLog
  dsimp only
  split_ifs with reached
  · have high : (dividend : ℚ) < 2 ^ (dividend.log2 + 1) := by
      exact_mod_cast Nat.lt_log2_self
    have low : (2 : ℚ) ^ divisor.log2 ≤ divisor := by
      exact_mod_cast Nat.log2_self_le (Nat.ne_of_gt positive)
    have split : (2 : ℚ) ^ ((dividend.log2 : Int) - divisor.log2 + 1) =
        2 ^ (dividend.log2 + 1) / 2 ^ divisor.log2 := by
      rw [sub_add_eq_add_sub, zpow_sub₀ two_ne_zero, zpow_natCast]
      norm_cast
    rw [split]
    gcongr
  · rw [reachesPower_iff_le positive, not_le] at reached
    rwa [sub_add_cancel]

theorem two_pow_mul_two_zpow (bits : Nat) (power : Int) :
    (2 : ℚ) ^ bits * 2 ^ power = 2 ^ (bits + power) := by
  rw [zpow_add₀ two_ne_zero, zpow_natCast]

/-- A quotient has at most 53 bits above its last place, and no fewer, unless this is the
least place of all. -/
theorem lastPlace_spec (positive : 0 < divisor) (nonzero : 0 < dividend) :
    -1074 ≤ lastPlace dividend divisor ∧
      (dividend : ℚ) / divisor < 2 ^ 53 * 2 ^ lastPlace dividend divisor ∧
        (lastPlace dividend divisor = -1074 ∨
          2 ^ 52 * 2 ^ lastPlace dividend divisor ≤ (dividend : ℚ) / divisor) := by
  have low := two_zpow_quotientLog_le positive nonzero
  have high : (dividend : ℚ) / divisor < 2 ^ (quotientLog dividend divisor + 1) :=
    lt_two_zpow_quotientLog positive
  rw [two_pow_mul_two_zpow, two_pow_mul_two_zpow]
  unfold lastPlace
  generalize quotientLog dividend divisor = power at low high ⊢
  refine ⟨by omega, ?_, ?_⟩
  · calc
      (dividend : ℚ) / divisor < 2 ^ (power + 1) := high
      _ ≤ 2 ^ (((53 : Nat) : Int) + max (-1074) (power - 52)) :=
        zpow_le_zpow_right₀ one_le_two (by omega)
  · rcases Int.le_total (power - 52) (-1074) with deep | shallow
    · exact .inl (Int.max_eq_left deep)
    · right
      rw [Int.max_eq_right shallow]
      have whole : ((52 : Nat) : Int) + (power - 52) = power := by omega
      rwa [whole]

end Place

/-! ## Rounding to a natural number -/

section Rounding

variable {dividend divisor : Nat}

/-- Rounding goes no farther than a half, and that far only to an even number. -/
theorem abs_roundTiesToEven_sub (positive : 0 < divisor) :
    |(roundTiesToEven dividend divisor : ℚ) - dividend / divisor| ≤ 1 / 2 ∧
      (|(roundTiesToEven dividend divisor : ℚ) - dividend / divisor| = 1 / 2 →
        roundTiesToEven dividend divisor % 2 = 0) := by
  have scale : (0 : ℚ) < divisor := by exact_mod_cast positive
  obtain ⟨part, same⟩ : ∃ part : ℚ, part = (dividend % divisor : Nat) / divisor := ⟨_, rfl⟩
  have division : (dividend : ℚ) / divisor = (dividend / divisor : Nat) + part := by
    rw [same, div_eq_iff scale.ne', add_mul, div_mul_cancel₀ _ scale.ne']
    exact_mod_cast (Nat.div_add_mod' dividend divisor).symm
  have nonnegative : 0 ≤ part := by
    rw [same]
    positivity
  have less : part < 1 := by
    rw [same, div_lt_one scale]
    exact_mod_cast Nat.mod_lt dividend positive
  have belowHalf : 2 * (dividend % divisor) < divisor ↔ part < 1 / 2 := by
    rw [same, div_lt_div_iff₀ scale two_pos, mul_comm 2]
    norm_cast
    rw [Nat.one_mul]
  have aboveHalf : divisor < 2 * (dividend % divisor) ↔ 1 / 2 < part := by
    rw [same, div_lt_div_iff₀ two_pos scale, mul_comm 2]
    norm_cast
    rw [Nat.one_mul]
  unfold roundTiesToEven
  simp only [division, belowHalf, aboveHalf]
  generalize dividend / divisor = whole
  split_ifs with down up
  · rw [sub_add_cancel_left, abs_neg, abs_of_nonneg nonnegative]
    exact ⟨down.le, fun half => absurd half down.ne⟩
  · have distance : |((whole + 1 : Nat) : ℚ) - (whole + part)| = 1 - part := by
      push_cast
      rw [add_sub_add_left_eq_sub, abs_of_pos (sub_pos.mpr less)]
    rw [distance]
    refine ⟨by linarith, fun half => ?_⟩
    linarith
  · have tie : part = 1 / 2 := le_antisymm (not_lt.mp up) (not_lt.mp down)
    refine ⟨?_, fun _ => by omega⟩
    rw [tie, Nat.cast_add, add_sub_add_left_eq_sub]
    rcases Nat.mod_two_eq_zero_or_one whole with even | odd
    · rw [even]
      norm_num
    · rw [odd]
      norm_num

/-- Any other natural number is at least as far away. -/
theorem half_le_abs_sub {whole other : Nat} {quotient : ℚ}
    (near : |(whole : ℚ) - quotient| ≤ 1 / 2) (different : other ≠ whole) :
    1 / 2 ≤ |(other : ℚ) - quotient| := by
  have apart : (1 : ℚ) ≤ |(other : ℚ) - whole| := by
    have integers : (1 : Int) ≤ |(other : Int) - whole| := by
      apply Int.one_le_abs
      omega
    exact_mod_cast integers
  have triangle := abs_sub_le (other : ℚ) quotient whole
  rw [abs_sub_comm quotient] at triangle
  linarith

end Rounding

/-! ## The nearest number -/

/-- A quotient that is rounded at its last place. -/
structure IsRounded (quotient : ℚ) (whole : Nat) (place : Int) : Prop where
  least : -1074 ≤ place
  few : quotient < 2 ^ 53 * 2 ^ place
  full : place = -1074 ∨ 2 ^ 52 * 2 ^ place ≤ quotient
  near : |(whole : ℚ) - quotient / 2 ^ place| ≤ 1 / 2
  tie : |(whole : ℚ) - quotient / 2 ^ place| = 1 / 2 → whole % 2 = 0

section Nearest

variable {quotient : ℚ} {place : Int} {whole : Nat}

/-- Distances in units of the last place. -/
theorem abs_value_sub (other : Nat) (place : Int) (quotient : ℚ) :
    |value other place - quotient| = |(other : ℚ) - quotient / 2 ^ place| * 2 ^ place := by
  have unit : (0 : ℚ) < 2 ^ place := zpow_pos two_pos place
  rw [value, ← abs_of_pos unit, ← abs_mul, abs_of_pos unit, sub_mul,
    div_mul_cancel₀ _ unit.ne']

theorem value_of_le (significand : Nat) {exponent : Int} (coarser : place ≤ exponent) :
    ∃ other : Nat, value significand exponent = value other place := by
  obtain ⟨shift, rfl⟩ := Int.le.dest coarser
  refine ⟨significand * 2 ^ shift, ?_⟩
  rw [value, value, zpow_add₀ two_ne_zero, zpow_natCast]
  push_cast
  ring

theorem value_lt_of_lt {significand : Nat} {exponent : Int} (bits : significand < 2 ^ 53)
    (finer : exponent < place) : value significand exponent < value (2 ^ 52) place := by
  have few : (significand : ℚ) < 2 ^ 53 := by exact_mod_cast bits
  calc
    value significand exponent < 2 ^ 53 * 2 ^ exponent :=
      mul_lt_mul_of_pos_right few (zpow_pos two_pos exponent)
    _ ≤ 2 ^ 53 * 2 ^ (place - 1) := by
      gcongr
      · exact one_le_two
      · omega
    _ = value (2 ^ 52) place := by
      rw [value, zpow_sub_one₀ two_ne_zero]
      push_cast
      ring

/-- A number that has just reached 54 bits is written with one bit less. -/
theorem value_carry {significand : Nat} {exponent : Int} {negative : Bool}
    (carried : carry negative whole place = .finite negative significand exponent) :
    value significand exponent = value whole place := by
  unfold carry at carried
  split_ifs at carried with full
  · cases carried
    rw [full, value, value, zpow_add_one₀ two_ne_zero]
    push_cast
    ring
  · cases carried
    rfl

namespace IsRounded

theorem bits (rounded : IsRounded quotient whole place) : whole ≤ 2 ^ 53 := by
  have unit : (0 : ℚ) < 2 ^ place := zpow_pos two_pos place
  have near := (abs_le.mp rounded.near).2
  have less : quotient / 2 ^ place < 2 ^ 53 := (div_lt_iff₀ unit).mpr rounded.few
  have cast : (whole : ℚ) < (2 ^ 53 : Nat) + 1 := by
    push_cast
    linarith
  exact Nat.lt_succ_iff.mp (by exact_mod_cast cast)

theorem normal (rounded : IsRounded quotient whole place) :
    place = -1074 ∨ 2 ^ 52 ≤ whole := by
  refine rounded.full.imp_right fun full => ?_
  have unit : (0 : ℚ) < 2 ^ place := zpow_pos two_pos place
  have near := (abs_le.mp rounded.near).1
  have most : 2 ^ 52 ≤ quotient / 2 ^ place := (le_div_iff₀ unit).mpr full
  have cast : ((2 ^ 52 : Nat) : ℚ) < whole + 1 := by
    push_cast
    linarith
  exact Nat.lt_succ_iff.mp (by exact_mod_cast cast)

/-- Among the multiples of the last place, the rounded quotient is the nearest. -/
theorem nearest_multiple (rounded : IsRounded quotient whole place) (other : Nat) :
    |value whole place - quotient| ≤ |value other place - quotient| ∧
      (|value other place - quotient| = |value whole place - quotient| →
        other ≠ whole → whole % 2 = 0) := by
  have unit : (0 : ℚ) < 2 ^ place := zpow_pos two_pos place
  rw [abs_value_sub, abs_value_sub, mul_le_mul_iff_left₀ unit, mul_left_inj' unit.ne']
  by_cases same : other = whole
  · rw [same]
    exact ⟨le_refl _, fun _ different => absurd rfl different⟩
  · have far := half_le_abs_sub rounded.near same
    refine ⟨rounded.near.trans far, fun equal _ => rounded.tie ?_⟩
    rw [equal] at far
    exact le_antisymm rounded.near far

/-- No number is nearer than the rounded quotient, and one that is as near is only passed
over for an even one. -/
theorem nearest (rounded : IsRounded quotient whole place) {other : ℚ}
    (number : IsNumber other) :
    |value whole place - quotient| ≤ |other - quotient| ∧
      (|other - quotient| = |value whole place - quotient| → other ≠ value whole place →
        whole % 2 = 0) := by
  obtain ⟨significand, exponent, bits, least, rfl⟩ := number
  rcases Int.lt_or_le exponent place with finer | coarser
  · -- A number with a finer last place lies below the first one of 53 bits.
    have below := value_lt_of_lt bits finer
    have above : value (2 ^ 52) place ≤ quotient := by
      rcases rounded.full with deepest | full
      · omega
      · rw [value]
        exact_mod_cast full
    have closer := (rounded.nearest_multiple (2 ^ 52)).1
    have strict : |value whole place - quotient| < |value significand exponent - quotient| := by
      refine closer.trans_lt ?_
      rw [abs_of_nonpos (by linarith), abs_of_neg (by linarith)]
      linarith
    exact ⟨strict.le, fun equal => absurd equal strict.ne'⟩
  · obtain ⟨multiple, same⟩ := value_of_le significand coarser
    rw [same]
    obtain ⟨closest, tie⟩ := rounded.nearest_multiple multiple
    refine ⟨closest, fun equal different => tie equal ?_⟩
    rintro rfl
    exact different rfl

theorem isNearest (rounded : IsRounded quotient whole place) {significand : Nat}
    {exponent : Int} {negative : Bool}
    (carried : carry negative whole place = .finite negative significand exponent) :
    IsNearest quotient significand exponent := by
  have same := value_carry carried
  have least := rounded.least
  have bits := rounded.bits
  have nearest : ∀ other, IsNumber other →
      |value significand exponent - quotient| ≤ |other - quotient| ∧
        (|other - quotient| = |value significand exponent - quotient| →
          other ≠ value significand exponent → whole % 2 = 0) := by
    intro other number
    rw [same]
    exact rounded.nearest number
  unfold carry at carried
  split_ifs at carried with overflow
  · cases carried
    exact {
      bits := by decide
      least := by omega
      normal := .inl (le_refl _)
      nearest := fun other number => (nearest other number).1
      even := fun _ _ _ _ => by decide }
  · cases carried
    exact {
      bits := by omega
      least
      normal := rounded.normal.symm.imp_right .inl
      nearest := fun other number => (nearest other number).1
      even := fun other number => (nearest other number).2 }

theorem exceedsRange_iff_le_value (rounded : IsRounded quotient whole place) :
    exceedsRange whole place = true ↔ (2 : ℚ) ^ 1024 ≤ value whole place := by
  rw [exceedsRange, Bool.and_eq_true, decide_eq_true_iff, decide_eq_true_iff]
  rcases Int.lt_or_le place 0 with negative | positive
  · refine iff_of_false (fun exceeds => by omega) (not_le.mpr ?_)
    have bits : (whole : ℚ) ≤ 2 ^ 53 := by exact_mod_cast rounded.bits
    calc
      value whole place ≤ 2 ^ 53 * 1 := by
        rw [value]
        gcongr
        exact zpow_le_one_of_nonpos₀ one_le_two (Int.le_of_lt negative)
      _ < 2 ^ 1024 := by
        rw [mul_one]
        exact pow_lt_pow_right₀ one_lt_two (by decide)
  · obtain ⟨power, rfl⟩ := Int.eq_ofNat_of_zero_le positive
    rw [and_iff_left positive, Int.toNat_natCast, value, zpow_natCast]
    have cast : ∀ top : Nat, 2 ^ top ≤ whole * 2 ^ power ↔
        (2 : ℚ) ^ top ≤ whole * 2 ^ power := by
      intro top
      norm_cast
    exact cast 1024

/-- At the last place of the range, rounding reaches the next power of two from the middle
below it: the number before it is odd. -/
theorem bits_le_iff (rounded : IsRounded quotient whole place) :
    2 ^ 53 ≤ whole ↔ 2 ^ 53 - 1 / 2 ≤ quotient / 2 ^ place := by
  obtain ⟨low, high⟩ := abs_le.mp rounded.near
  constructor
  · intro reached
    have cast : (2 : ℚ) ^ 53 ≤ whole := by exact_mod_cast reached
    linarith
  · intro reached
    by_contra below
    have few : whole + 1 ≤ 2 ^ 53 := by omega
    have cast : (whole : ℚ) + 1 ≤ 2 ^ 53 := by exact_mod_cast few
    have middle : (whole : ℚ) - quotient / 2 ^ place = -(1 / 2) :=
      le_antisymm (by linarith) (by linarith)
    have even := rounded.tie (by rw [middle, abs_neg, abs_of_pos one_half_pos])
    have previous : (whole : ℚ) + 1 = 2 ^ 53 := by linarith
    have odd : whole + 1 = 2 ^ 53 := by exact_mod_cast previous
    omega

/-- The least quotient that is rounded beyond the range lies in the middle between the
greatest number and the next power of two. -/
theorem exceedsRange_iff (rounded : IsRounded quotient whole place) :
    exceedsRange whole place = true ↔ 2 ^ 1024 - 2 ^ 970 ≤ quotient := by
  rw [rounded.exceedsRange_iff_le_value]
  obtain ⟨half, same⟩ : ∃ half : ℚ, half = 2 ^ 970 := ⟨_, rfl⟩
  have positive : 0 < half := by
    rw [same]
    exact pow_pos two_pos 970
  have top : (2 : ℚ) ^ 1024 = 2 ^ 54 * half := by
    rw [same, ← pow_add]
  have place970 : (2 : ℚ) ^ (970 : Int) = half := by
    rw [same]
    exact zpow_natCast 2 970
  rw [top, ← same, value]
  clear top same
  rcases lt_trichotomy place 971 with inside | last | beyond
  · have unit : (2 : ℚ) ^ place ≤ half := by
      rw [← place970]
      exact zpow_le_zpow_right₀ one_le_two (by omega)
    have bits : (whole : ℚ) ≤ 2 ^ 53 := by exact_mod_cast rounded.bits
    refine iff_of_false (not_le.mpr ?_) (not_le.mpr ?_)
    · calc
        (whole : ℚ) * 2 ^ place ≤ 2 ^ 53 * half := by gcongr
        _ < 2 ^ 54 * half := by gcongr <;> norm_num
    · calc
        quotient < 2 ^ 53 * 2 ^ place := rounded.few
        _ ≤ 2 ^ 53 * half := by gcongr
        _ < 2 ^ 54 * half - half := by linarith only [positive]
  · have unit : (2 : ℚ) ^ place = 2 * half := by
      rw [last, ← place970, ← zpow_one_add₀ two_ne_zero]
      rfl
    have reached := rounded.bits_le_iff
    rw [le_div_iff₀ (zpow_pos two_pos place), unit] at reached
    have cast : (2 : ℚ) ^ 53 ≤ whole ↔ 2 ^ 53 ≤ whole := by norm_cast
    have double : (2 : ℚ) ^ 54 * half = 2 ^ 53 * (2 * half) := by ring
    have middle : (2 : ℚ) ^ 54 * half - half = (2 ^ 53 - 1 / 2) * (2 * half) := by ring
    rw [unit, middle, double, mul_le_mul_iff_left₀ (by positivity), cast, reached]
  · have unit : 4 * half ≤ (2 : ℚ) ^ place := by
      calc
        4 * half = 2 ^ 2 * 2 ^ (970 : Int) := by
          rw [place970]
          norm_num
        _ = 2 ^ (((2 : Nat) : Int) + 970) := two_pow_mul_two_zpow 2 970
        _ ≤ 2 ^ place := zpow_le_zpow_right₀ one_le_two (by omega)
    have bits : (2 : ℚ) ^ 52 ≤ whole := by
      exact_mod_cast rounded.normal.resolve_left (by omega)
    have full := rounded.full.resolve_left (by omega)
    refine iff_of_true ?_ ?_
    · calc
        (2 : ℚ) ^ 54 * half = 2 ^ 52 * (4 * half) := by ring
        _ ≤ (whole : ℚ) * 2 ^ place :=
          mul_le_mul bits unit (mul_pos four_pos positive).le (Nat.cast_nonneg whole)
    · calc
        (2 : ℚ) ^ 54 * half - half ≤ 2 ^ 52 * (4 * half) := by linarith only [positive]
        _ ≤ 2 ^ 52 * 2 ^ place := by gcongr
        _ ≤ quotient := full

end IsRounded

end Nearest

section OfRatio

variable {dividend divisor : Nat}

theorem scaled_quotient (dividend divisor : Nat) (place : Int) :
    ((dividend * 2 ^ (-place).toNat : Nat) : ℚ) / (divisor * 2 ^ place.toNat : Nat) =
      dividend / divisor / 2 ^ place := by
  rw [two_zpow_eq]
  push_cast
  field_simp

theorem isRounded_roundedSignificand (positive : 0 < divisor) (nonzero : 0 < dividend) :
    IsRounded (dividend / divisor) (roundedSignificand dividend divisor)
      (lastPlace dividend divisor) := by
  obtain ⟨least, few, full⟩ := lastPlace_spec positive nonzero
  have scaled : 0 < divisor * 2 ^ (lastPlace dividend divisor).toNat :=
    Nat.mul_pos positive (Nat.two_pow_pos _)
  obtain ⟨near, tie⟩ := @abs_roundTiesToEven_sub
    (dividend * 2 ^ (-lastPlace dividend divisor).toNat) _ scaled
  rw [scaled_quotient] at near tie
  exact ⟨least, few, full, near, tie⟩

theorem isNearest_zero : IsNearest 0 0 0 := by
  have zero : value 0 0 = 0 := by
    rw [value, Nat.cast_zero, zero_mul]
  refine ⟨by decide, by decide, .inr (.inr rfl), ?_, fun _ _ _ _ => rfl⟩
  intro other _
  rw [zero, sub_zero, abs_zero]
  exact abs_nonneg _

/-- A rounded quotient is the number nearest to the exact one. -/
theorem isNearest_of_ofRatio (positive : 0 < divisor) {negative : Bool}
    {significand : Nat} {exponent : Int}
    (rounded : ofRatio negative dividend divisor =
      .finite negative significand exponent) :
    IsNearest (dividend / divisor) significand exponent := by
  unfold ofRatio at rounded
  dsimp only at rounded
  split_ifs at rounded with zero
  · cases rounded
    rw [zero, Nat.cast_zero, zero_div]
    exact isNearest_zero
  · exact (isRounded_roundedSignificand positive (Nat.pos_of_ne_zero zero)).isNearest rounded

end OfRatio

end Folio.Binary64
