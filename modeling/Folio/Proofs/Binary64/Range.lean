import Folio.Proofs.Binary64.Nearest

/-!
# Places and range of rounded quotients

The last place of a quotient follows from its integer part.  Quotients below the middle
between the greatest number and the next power of two are rounded to the number nearest
to them, and all others to infinity.
-/

namespace Folio.Binary64

-- Powers of natural numbers, as in the definitions.
attribute [local instance (2000)] instPowNat

/-! ## Rounding at an integer -/

section Rounding

variable {dividend divisor bound : Nat}

/-- Rounding goes beyond a natural number exactly from the middle between this and the
next one, and in the middle itself if the number is odd. -/
theorem lt_roundTiesToEven_iff (positive : 0 < divisor) :
    bound < roundTiesToEven dividend divisor ↔
      (2 * bound + 1) * divisor < 2 * dividend ∨
        (2 * bound + 1) * divisor = 2 * dividend ∧ bound % 2 = 1 := by
  have division := Nat.div_add_mod' dividend divisor
  have small := Nat.mod_lt dividend positive
  have double : (2 * bound + 1) * divisor = 2 * (bound * divisor) + divisor := by ring
  rw [double]
  unfold roundTiesToEven
  dsimp only
  generalize dividend / divisor = whole at division ⊢
  generalize dividend % divisor = rest at division small ⊢
  rcases Nat.lt_trichotomy whole bound with below | rfl | above
  · have least : (whole + 1) * divisor ≤ bound * divisor :=
      Nat.mul_le_mul_right divisor below
    rw [Nat.add_one_mul] at least
    split_ifs <;> omega
  · split_ifs <;> omega
  · have least : (bound + 1) * divisor ≤ whole * divisor :=
      Nat.mul_le_mul_right divisor above
    rw [Nat.add_one_mul] at least
    split_ifs <;> omega

theorem pos_of_one_le_div (several : 1 ≤ dividend / divisor) : 0 < dividend := by
  obtain ⟨positive, least⟩ := Nat.div_pos_iff.mp several
  exact positive.trans_le least

/-- The logarithm of a quotient of at least one is that of its integer part. -/
theorem quotientLog_eq_log2 (positive : 0 < divisor) (several : 1 ≤ dividend / divisor) :
    quotientLog dividend divisor = ((dividend / divisor).log2 : Int) := by
  have nonzero := pos_of_one_le_div several
  have scale : (0 : ℚ) < divisor := by exact_mod_cast positive
  have low := two_zpow_quotientLog_le positive nonzero
  have high : (dividend : ℚ) / divisor < 2 ^ (quotientLog dividend divisor + 1) :=
    lt_two_zpow_quotientLog positive
  have wholeLow : (2 : ℚ) ^ (((dividend / divisor).log2 : Nat) : Int) ≤ dividend / divisor := by
    rw [zpow_natCast, le_div_iff₀ scale]
    exact_mod_cast (Nat.le_div_iff_mul_le positive).mp
      (Nat.log2_self_le (Nat.one_le_iff_ne_zero.mp several))
  have wholeHigh : (dividend : ℚ) / divisor < 2 ^ (((dividend / divisor).log2 : Int) + 1) := by
    have above : dividend < 2 ^ ((dividend / divisor).log2 + 1) * divisor :=
      (Nat.div_lt_iff_lt_mul positive).mp Nat.lt_log2_self
    rw [div_lt_iff₀ scale]
    exact_mod_cast above
  have upper := (zpow_lt_zpow_iff_right₀ one_lt_two).mp (low.trans_lt wholeHigh)
  have lower := (zpow_lt_zpow_iff_right₀ one_lt_two).mp (wholeLow.trans_lt high)
  omega

/-- A quotient of at least one has its last place 52 bits below that of its integer
part. -/
theorem lastPlace_eq (positive : 0 < divisor) (several : 1 ≤ dividend / divisor) :
    lastPlace dividend divisor = ((dividend / divisor).log2 : Int) - 52 := by
  unfold lastPlace
  rw [quotientLog_eq_log2 positive several]
  omega

end Rounding

/-! ## Quotients beyond the range -/

/-- The least natural number that is rounded to infinity. -/
def leastInfinite : Nat := 2 ^ (1024 : Nat) - 2 ^ (970 : Nat)

theorem leastInfinite_eq : (leastInfinite : ℚ) = 2 ^ 1024 - 2 ^ 970 := by
  have cast : ∀ high low : Nat, low ≤ high →
      ((2 ^ high - 2 ^ low : Nat) : ℚ) = 2 ^ high - 2 ^ low := by
    intro high low smaller
    rw [Nat.cast_sub (Nat.pow_le_pow_right two_pos smaller)]
    push_cast
    rfl
  rw [leastInfinite, cast 1024 970 (by decide)]

section Ceiling

variable {dividend divisor : Nat}

theorem exceedsRange_roundedSignificand_iff (positive : 0 < divisor)
    (nonzero : 0 < dividend) :
    exceedsRange (roundedSignificand dividend divisor) (lastPlace dividend divisor) = true ↔
      leastInfinite * divisor ≤ dividend := by
  have scale : (0 : ℚ) < divisor := by exact_mod_cast positive
  rw [(isRounded_roundedSignificand positive nonzero).exceedsRange_iff, ← leastInfinite_eq,
    le_div_iff₀ scale]
  norm_cast

/-- Within the range, the ceiling is taken at the last place. -/
theorem ceilingOf_ofRatio_eq (positive : 0 < divisor) (nonzero : 0 < dividend) :
    Page.ceilingOf (ofRatio false dividend divisor) =
      if leastInfinite * divisor ≤ dividend then .error .outOfRange
      else .ok (ceiling false (roundedSignificand dividend divisor)
        (lastPlace dividend divisor)) := by
  have exceeds := exceedsRange_roundedSignificand_iff positive nonzero
  unfold ofRatio
  dsimp only
  rw [if_neg (Nat.ne_of_gt nonzero)]
  by_cases beyond : leastInfinite * divisor ≤ dividend
  · rw [if_pos (exceeds.mpr beyond), if_pos beyond, Page.ceilingOf]
  · rw [if_neg (mt exceeds.mp beyond), if_neg beyond, ceilingOf_carry]

/-- Quotients within the range are rounded to the number nearest to them. -/
theorem exists_ofRatio_eq_finite (positive : 0 < divisor) (negative : Bool)
    (within : dividend < leastInfinite * divisor) :
    ∃ significand exponent,
      ofRatio negative dividend divisor = .finite negative significand exponent ∧
        IsNearest (dividend / divisor) significand exponent := by
  obtain ⟨significand, exponent, rounded⟩ : ∃ significand exponent,
      ofRatio negative dividend divisor = .finite negative significand exponent := by
    unfold ofRatio
    dsimp only
    by_cases zero : dividend = 0
    · rw [if_pos zero]
      exact ⟨0, 0, rfl⟩
    · have inRange := mt (exceedsRange_roundedSignificand_iff positive
        (Nat.pos_of_ne_zero zero)).mp (Nat.not_le.mpr within)
      rw [if_neg zero, if_neg inRange, carry]
      split_ifs
      · exact ⟨_, _, rfl⟩
      · exact ⟨_, _, rfl⟩
  exact ⟨significand, exponent, rounded, isNearest_of_ofRatio positive rounded⟩

theorem quotient_natCast (dividend divisor : Nat) :
    quotient (dividend : Int) divisor = ofRatio false dividend divisor := by
  have nonnegative : ¬ ((dividend : Int) < 0) := Int.not_lt.mpr (Int.natCast_nonneg dividend)
  rw [quotient, decide_eq_false nonnegative, Int.natAbs_natCast]

end Ceiling

end Folio.Binary64
