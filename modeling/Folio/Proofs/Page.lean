import Folio.ArticleStore
import Folio.Proofs.Binary64

/-!
# Pages of a list

A list is cut into pages of one size, of which the last may be shorter.  The
number of pages is the one that is computed from a rounded quotient.
-/

namespace Folio

-- Powers of natural numbers, as in the definitions.
attribute [local instance (2000)] instPowNat

namespace Page

def countFor (total limit : Nat) : Nat :=
  (total + (limit - 1)) / limit

section Count

variable {total limit : Nat}

theorem countFor_zero (positive : 1 ≤ limit) : countFor 0 limit = 0 :=
  Nat.div_eq_of_lt (by omega)

theorem le_countFor_mul (total : Nat) (positive : 1 ≤ limit) :
    total ≤ countFor total limit * limit := by
  have division := Nat.div_add_mod' (total + (limit - 1)) limit
  have small := Nat.mod_lt (total + (limit - 1)) positive
  unfold countFor
  omega

theorem mul_lt_of_lt_countFor (positive : 1 ≤ limit) {number : Nat}
    (within : number < countFor total limit) : number * limit < total := by
  have most : (number + 1) * limit ≤ total + (limit - 1) :=
    (Nat.le_div_iff_mul_le positive).mp within
  rw [Nat.add_one_mul] at most
  omega

theorem lt_countFor_iff (positive : 1 ≤ limit) {number : Nat} :
    number < countFor total limit ↔ number * limit < total := by
  constructor
  · exact mul_lt_of_lt_countFor positive
  · intro less
    by_contra beyond
    have whole := le_countFor_mul total positive
    have later := Nat.mul_le_mul_right limit (Nat.not_lt.mp beyond)
    omega

theorem countFor_le_iff (positive : 1 ≤ limit) {number : Nat} :
    countFor total limit ≤ number ↔ total ≤ number * limit := by
  rw [← Nat.not_lt, lt_countFor_iff positive, Nat.not_lt]

/-- The right number of pages: the last one is neither too early nor empty. -/
theorem eq_countFor_iff (positive : 1 ≤ limit) {number : Nat} :
    number = countFor total limit ↔
      ((number : Int) - 1) * limit < total ∧ (total : Int) ≤ number * limit := by
  have least : countFor total limit ≤ number ↔ (total : Int) ≤ number * limit := by
    rw [countFor_le_iff positive]
    norm_cast
  have most : number ≤ countFor total limit ↔ ((number : Int) - 1) * limit < total := by
    rcases number with _ | earlier
    · refine iff_of_true (Nat.zero_le _) ?_
      rw [Nat.cast_zero, Int.zero_sub, Int.neg_mul, Int.one_mul]
      omega
    · rw [Nat.succ_le_iff, lt_countFor_iff positive, Nat.cast_add_one, Int.add_sub_cancel]
      norm_cast
  rw [← least, ← most, Nat.eq_iff_le_and_ge]

theorem countFor_eq (total : Nat) (positive : 1 ≤ limit) :
    countFor total limit = if total % limit = 0 then total / limit else total / limit + 1 := by
  have division := Nat.div_add_mod' total limit
  have small := Nat.mod_lt total positive
  unfold countFor
  split_ifs with divisible
  · apply Nat.div_eq_of_lt_le
    · omega
    · rw [Nat.add_one_mul]
      omega
  · apply Nat.div_eq_of_lt_le
    · rw [Nat.add_one_mul]
      omega
    · rw [Nat.add_one_mul, Nat.add_one_mul]
      omega

theorem pageCount_eq_ceilingOf (total : Nat) (positive : 1 ≤ limit) :
    pageCount (.ofNat total) limit = ceilingOf (Binary64.ofRatio false total limit) := by
  have nonzero : limit ≠ 0 := by omega
  have nonnegative : ¬ ((total : Int) < 0) :=
    Int.not_lt.mpr (Int.natCast_nonneg total)
  simp only [pageCount, nonzero, ↓reduceIte, Json.ofNat, Binary64.quotient,
    Int.ofNat_eq_natCast, Int.natAbs_natCast, nonnegative, decide_false]

/-- Whatever the limit, there is a number of pages for all totals of 128 bits. -/
theorem exists_pageCount (bounded : total ≤ 2 ^ (128 : Nat)) (limit : Nat) :
    ∃ pages, pageCount (.ofNat total) limit = .ok pages := by
  rcases Nat.eq_zero_or_pos limit with rfl | positive
  · exact ⟨0, rfl⟩
  · rw [pageCount_eq_ceilingOf total positive]
    exact Binary64.exists_ceilingOf_ofRatio positive bounded

/-- The number of pages is computed without an error. -/
theorem pageCount_ofNat (few : total ≤ 2 ^ 53) (positive : 1 ≤ limit)
    (bounded : limit ≤ 2 ^ (1000 : Nat)) :
    pageCount (.ofNat total) limit = .ok (countFor total limit : Int) := by
  rw [pageCount_eq_ceilingOf total positive]
  rcases Nat.eq_zero_or_pos total with rfl | items
  · rw [countFor_zero positive]
    rfl
  · have least := le_countFor_mul total positive
    obtain ⟨earlier, count⟩ : ∃ earlier, countFor total limit = earlier + 1 := by
      apply Nat.exists_eq_add_one.mpr
      rcases Nat.eq_zero_or_pos (countFor total limit) with none | several
      · rw [none, Nat.zero_mul] at least
        omega
      · exact several
    rw [count] at least ⊢
    apply Binary64.ceilingOf_ofRatio few positive bounded _ least
    apply mul_lt_of_lt_countFor positive
    omega

theorem countFor_of_le (items : 0 < total) (proper : total ≤ limit) :
    countFor total limit = 1 := by
  have positive : 1 ≤ limit := by omega
  apply Nat.le_antisymm
  · apply Nat.le_of_not_lt
    intro several
    have beyond := mul_lt_of_lt_countFor positive several
    omega
  · apply (lt_countFor_iff positive).mpr
    omega

/-- The number of pages is right, unless the limit is so large that the quotient is
rounded to zero. -/
theorem pageCount_of_few (few : total ≤ 2 ^ 53) (positive : 1 ≤ limit) :
    pageCount (.ofNat total) limit =
      .ok ((if total * 2 ^ (1075 : Nat) ≤ limit then 0
        else countFor total limit : Nat) : Int) := by
  rcases Nat.eq_zero_or_pos total with rfl | items
  · rw [countFor_zero positive, pageCount_eq_ceilingOf 0 positive]
    split <;> rfl
  · rcases Nat.le_total limit (2 ^ (1000 : Nat)) with bounded | large
    · have most : 2 ^ (1075 : Nat) ≤ total * 2 ^ (1075 : Nat) :=
        Nat.le_mul_of_pos_left _ items
      have less : 2 ^ (1000 : Nat) < 2 ^ (1075 : Nat) :=
        Binary64.two_pow_lt_two_pow 1000 1075 (by decide)
      rw [pageCount_ofNat few positive bounded, if_neg]
      exact Nat.not_le.mpr (Nat.lt_of_le_of_lt bounded (Nat.lt_of_lt_of_le less most))
    · have proper : total ≤ limit := by
        calc
          total ≤ 2 ^ 53 := few
          _ ≤ 2 ^ (1000 : Nat) :=
            Nat.le_of_lt (Binary64.two_pow_lt_two_pow 53 1000 (by decide))
          _ ≤ limit := large
      rw [pageCount_eq_ceilingOf total positive,
        Binary64.ceilingOf_ofRatio_of_le items proper, countFor_of_le items proper]
      split <;> rfl

/-- A page is occupied exactly up to the count, unless the count is one of quotients
that are rounded to zero. -/
theorem occupied_iff {number pages size : Nat} (positive : 1 ≤ limit)
    (first : 1 ≤ number)
    (counted : pages =
      if total * 2 ^ (1075 : Nat) ≤ limit then 0 else countFor total limit)
    (sized : size = min limit (total - (number - 1) * limit)) :
    ((0 < size ↔ number ≤ pages) ↔
      (total * 2 ^ (1075 : Nat) ≤ limit → total = 0 ∨ 1 < number)) := by
  have left : 0 < size ↔ (number - 1) * limit < total := by
    omega
  by_cases tiny : total * 2 ^ (1075 : Nat) ≤ limit
  · -- Everything is on the first page, which is not counted.
    have proper : total ≤ limit :=
      Nat.le_trans (Nat.le_mul_of_pos_right _ (Nat.two_pow_pos 1075)) tiny
    have skipped : 1 < number → limit ≤ (number - 1) * limit := by
      intro later
      exact Nat.le_mul_of_pos_left _ (by omega)
    rw [if_pos tiny] at counted
    rw [left, counted, forall_prop_of_true tiny]
    rcases Nat.lt_or_ge 1 number with later | only
    · have beyond := skipped later
      omega
    · obtain rfl : number = 1 := by omega
      omega
  · rw [if_neg tiny] at counted
    have within : number - 1 < countFor total limit ↔ (number - 1) * limit < total :=
      lt_countFor_iff positive
    refine iff_of_true ?_ fun vanishes => absurd vanishes tiny
    rw [left, counted, ← within]
    omega

end Count

end Page

namespace ArticleStore

section Slices

variable {α : Type} (items : List α) {limit : Nat}

theorem length_slice (offset limit : Nat) :
    (slice offset limit items).length = min limit (items.length - offset) := by
  rw [slice, List.length_take, List.length_drop]

theorem flatMap_slice (limit count : Nat) :
    (List.range count).flatMap (fun index => slice (index * limit) limit items) =
      items.take (count * limit) := by
  induction count with
  | zero => simp
  | succ count inductionHypothesis =>
      rw [List.range_succ, List.flatMap_append, inductionHypothesis, Nat.succ_mul,
        List.take_add, List.flatMap_singleton, slice]

theorem flatMap_slice_countFor (positive : 1 ≤ limit) :
    (List.range (Page.countFor items.length limit)).flatMap
        (fun index => slice (index * limit) limit items) = items := by
  rw [flatMap_slice, List.take_of_length_le (Page.le_countFor_mul _ positive)]

/-- A page before the last one is full. -/
theorem length_slice_of_lt (positive : 1 ≤ limit) {index : Nat}
    (earlier : index + 1 < Page.countFor items.length limit) :
    (slice (index * limit) limit items).length = limit := by
  have within := Page.mul_lt_of_lt_countFor positive earlier
  rw [Nat.add_one_mul] at within
  rw [length_slice]
  omega

theorem length_slice_pos (positive : 1 ≤ limit) {index : Nat}
    (within : index < Page.countFor items.length limit) :
    1 ≤ (slice (index * limit) limit items).length := by
  have items := Page.mul_lt_of_lt_countFor positive within
  rw [length_slice]
  omega

theorem slice_eq_nil (positive : 1 ≤ limit) {index : Nat}
    (beyond : Page.countFor items.length limit ≤ index) :
    slice (index * limit) limit items = [] := by
  have whole := Page.le_countFor_mul items.length positive
  have later := Nat.mul_le_mul_right limit beyond
  rw [slice, List.drop_of_length_le (Nat.le_trans whole later), List.take_nil]

end Slices

end ArticleStore

end Folio
