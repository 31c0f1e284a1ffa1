import Folio.Proofs.Binary64.Range
import Folio.Proofs.Page
import Folio.Proofs.PageRequest

/-!
# The number of pages

The number of pages is the ceiling of the number nearest to a quotient.  This is the
ceiling of the quotient itself for all totals of 53 bits, and beyond them as long as the
rounding does not cross the integer below the quotient.
-/

namespace Folio

-- Powers of natural numbers, as in the definitions.
attribute [local instance (2000)] instPowNat

namespace Page

/-! ## Where the ceiling is kept -/

/-- Rounding keeps the ceiling of a quotient. -/
def KeepsCeiling (total limit : Nat) : Prop :=
  let whole := total / limit
  let rest := total % limit
  if whole = 0 then
    -- A quotient below one must not be rounded to zero.
    rest = 0 ∨ limit < rest * 2 ^ (1075 : Nat)
  else if whole < 2 ^ (53 : Nat) then
    -- What exceeds the integer below must be more than a half of the last place.
    rest = 0 ∨ limit < rest * 2 ^ (53 - whole.log2) ∨
      limit = rest * 2 ∧ 2 ^ (52 : Nat) ≤ whole ∧ whole % 2 = 1
  else
    -- Only multiples of the last place are left.
    2 ^ (whole.log2 - 52) ∣ countFor total limit ∧
      total < Binary64.leastInfinite * limit

instance (total limit : Nat) : Decidable (KeepsCeiling total limit) :=
  inferInstanceAs (Decidable (ite _ _ (ite _ _ _)))

section Count

open Binary64

variable {total limit : Nat}

theorem pageCount_eq_iff_of_lt_one (proper : total / limit = 0) (positive : 1 ≤ limit) :
    pageCount (.ofNat total) limit = .ok (countFor total limit : Int) ↔
      total % limit = 0 ∨ limit < total % limit * 2 ^ (1075 : Nat) := by
  have less : total < limit := (Nat.div_eq_zero_iff_lt positive).mp proper
  rw [Nat.mod_eq_of_lt less]
  rcases Nat.eq_zero_or_pos total with rfl | items
  · rw [countFor_zero positive, pageCount_eq_ceilingOf 0 positive]
    exact iff_of_true rfl (.inl rfl)
  · rw [pageCount_eq_ceilingOf total positive, ceilingOf_ofRatio_of_le items less.le,
      countFor_of_le items less.le, Except.ok.injEq, or_iff_right (Nat.ne_of_gt items)]
    split_ifs with tiny
    · exact iff_of_false (by decide) (Nat.not_lt.mpr tiny)
    · exact iff_of_true rfl (Nat.lt_of_not_le tiny)

theorem lt_leastInfinite_mul (positive : 1 ≤ limit) (few : total / limit < 2 ^ (53 : Nat)) :
    total < leastInfinite * limit := by
  have enough : 2 ^ (53 : Nat) ≤ leastInfinite := by
    decide +kernel
  calc
    total < 2 ^ (53 : Nat) * limit := (Nat.div_lt_iff_lt_mul positive).mp few
    _ ≤ leastInfinite * limit := Nat.mul_le_mul_right limit enough

/-- Of a quotient with places below one, the pages are counted at these places. -/
theorem pageCount_of_scale (positive : 1 ≤ limit) (several : 1 ≤ total / limit)
    {scale : Nat} (depth : (total / limit).log2 + scale = 52) :
    pageCount (.ofNat total) limit =
      .ok (countFor (roundTiesToEven (total * 2 ^ scale) limit) (2 ^ scale) : Int) := by
  have few : total / limit < 2 ^ (53 : Nat) := by
    calc
      total / limit < 2 ^ ((total / limit).log2 + 1) := Nat.lt_log2_self
      _ ≤ 2 ^ (53 : Nat) := Nat.pow_le_pow_right two_pos (by omega)
  have place : lastPlace total limit = -(scale : Int) := by
    rw [lastPlace_eq positive several]
    omega
  have unscaled : (-(scale : Int)).toNat = 0 := by omega
  rw [pageCount_eq_ceilingOf total positive,
    ceilingOf_ofRatio_eq positive (pos_of_one_le_div several),
    if_neg (Nat.not_le.mpr (lt_leastInfinite_mul positive few)), roundedSignificand, place,
    unscaled, Int.neg_neg, Int.toNat_natCast, Nat.pow_zero, Nat.mul_one, ceiling,
    numerator, denominator, unscaled, Int.neg_neg, Int.toNat_natCast, Nat.pow_zero,
    Nat.mul_one]
  rfl

/-- At the places of a scale, the rounded quotient has the ceiling of the exact one if
there is no rest, or if rounding goes beyond the integer below. -/
theorem countFor_roundTiesToEven_iff (positive : 1 ≤ limit) (scale : Nat) :
    countFor (roundTiesToEven (total * 2 ^ scale) limit) (2 ^ scale) = countFor total limit ↔
      total % limit = 0 ∨ total / limit * 2 ^ scale <
        roundTiesToEven (total * 2 ^ scale) limit := by
  have unit : 1 ≤ 2 ^ scale := Nat.two_pow_pos scale
  have ceil := countFor_eq total positive
  have most : countFor (roundTiesToEven (total * 2 ^ scale) limit) (2 ^ scale) ≤
      countFor total limit := by
    rw [countFor_le_iff unit]
    apply roundTiesToEven_le positive
    calc
      total * 2 ^ scale ≤ countFor total limit * limit * 2 ^ scale :=
        Nat.mul_le_mul_right _ (le_countFor_mul total positive)
      _ = countFor total limit * 2 ^ scale * limit := by ring
  rw [← lt_countFor_iff unit]
  split_ifs at ceil with divisible
  · have least : total / limit * 2 ^ scale ≤ roundTiesToEven (total * 2 ^ scale) limit := by
      apply le_roundTiesToEven positive
      calc
        total / limit * 2 ^ scale * limit = total / limit * limit * 2 ^ scale := by ring
        _ ≤ total * 2 ^ scale := Nat.mul_le_mul_right _ (Nat.div_mul_le_self total limit)
    have reached := least.trans (le_countFor_mul _ unit)
    have floor := Nat.le_of_mul_le_mul_right reached (Nat.two_pow_pos scale)
    rw [ceil] at most ⊢
    exact iff_of_true (Nat.le_antisymm most floor) (.inl divisible)
  · rw [ceil] at most ⊢
    omega

theorem pageCount_eq_iff_of_few (positive : 1 ≤ limit) (several : 1 ≤ total / limit)
    (few : total / limit < 2 ^ (53 : Nat)) :
    pageCount (.ofNat total) limit = .ok (countFor total limit : Int) ↔
      total % limit = 0 ∨ limit < total % limit * 2 ^ (53 - (total / limit).log2) ∨
        limit = total % limit * 2 ∧ 2 ^ (52 : Nat) ≤ total / limit ∧
          total / limit % 2 = 1 := by
  have nonzero : total / limit ≠ 0 := Nat.one_le_iff_ne_zero.mp several
  have bits : (total / limit).log2 < 53 := (Nat.log2_lt nonzero).mpr few
  have full : 52 ≤ (total / limit).log2 ↔ 2 ^ (52 : Nat) ≤ total / limit :=
    Nat.le_log2 nonzero
  obtain ⟨scale, depth⟩ : ∃ scale, (total / limit).log2 + scale = 52 :=
    ⟨52 - (total / limit).log2, by omega⟩
  have places : 53 - (total / limit).log2 = scale + 1 := by omega
  have double : 2 * (total * 2 ^ scale) =
      2 * (total / limit * 2 ^ scale) * limit + total % limit * 2 ^ (scale + 1) := by
    calc
      2 * (total * 2 ^ scale) =
          2 * ((total / limit * limit + total % limit) * 2 ^ scale) := by
        rw [Nat.div_add_mod']
      _ = _ := by ring
  rw [pageCount_of_scale positive several depth, Except.ok.injEq, Int.natCast_inj,
    countFor_roundTiesToEven_iff positive, lt_roundTiesToEven_iff positive, double,
    Nat.add_one_mul, Nat.add_lt_add_iff_left, Nat.add_left_cancel_iff, places]
  refine or_congr_right (or_congr_right ?_)
  rcases scale with _ | finer
  · -- The last place is that of the integers.
    rw [Nat.pow_zero, Nat.mul_one, Nat.zero_add, Nat.pow_one, and_iff_right (full.mp (by omega))]
  · have even : total / limit * 2 ^ (finer + 1) % 2 = 0 := by
      rw [Nat.pow_succ, ← Nat.mul_assoc, Nat.mul_mod_left]
    rw [even]
    refine iff_of_false (fun tie => absurd tie.2 (by decide)) fun tie => ?_
    have last := full.mpr tie.2.1
    omega

/-! ## Quotients of more bits -/

/-- A quotient of more than 53 bits is rounded to a multiple of its last place. -/
theorem pageCount_of_large (positive : 1 ≤ limit) {power : Nat}
    (place : (total / limit).log2 = power + 52) :
    pageCount (.ofNat total) limit =
      if leastInfinite * limit ≤ total then .error .outOfRange
      else .ok (roundTiesToEven total (limit * 2 ^ power) * 2 ^ power : Nat) := by
  have several : 1 ≤ total / limit := by
    apply Nat.one_le_iff_ne_zero.mpr
    intro zero
    rw [zero, Nat.log2_zero] at place
    omega
  have last : lastPlace total limit = (power : Int) := by
    rw [lastPlace_eq positive several]
    omega
  have unscaled : (-(power : Int)).toNat = 0 := by omega
  rw [pageCount_eq_ceilingOf total positive,
    ceilingOf_ofRatio_eq positive (pos_of_one_le_div several), roundedSignificand, last,
    unscaled, Int.toNat_natCast, Nat.pow_zero, Nat.mul_one, ceiling, numerator,
    denominator, unscaled, Int.toNat_natCast, Nat.pow_zero, Nat.sub_self, Nat.add_zero,
    Nat.div_one]
  rfl

/-- Rounded to a multiple of a power of two, a quotient has its ceiling exactly if this is
such a multiple itself. -/
theorem roundTiesToEven_mul_eq_iff (positive : 1 ≤ limit) {power : Nat} (coarse : 1 ≤ power) :
    roundTiesToEven total (limit * 2 ^ power) * 2 ^ power = countFor total limit ↔
      2 ^ power ∣ countFor total limit := by
  have scaled : 0 < limit * 2 ^ power := Nat.mul_pos positive (Nat.two_pow_pos power)
  have two : 2 ≤ 2 ^ power := Nat.pow_le_pow_right (by decide : 0 < 2) coarse
  constructor
  · intro same
    exact ⟨_, same.symm.trans (Nat.mul_comm _ _)⟩
  · rintro ⟨multiple, ceil⟩
    have most : roundTiesToEven total (limit * 2 ^ power) ≤ multiple := by
      apply roundTiesToEven_le scaled
      calc
        total ≤ countFor total limit * limit := le_countFor_mul total positive
        _ = multiple * (limit * 2 ^ power) := by
          rw [ceil]
          ring
    rcases Nat.eq_zero_or_pos multiple with rfl | pages
    · rw [Nat.le_zero.mp most, ceil, Nat.zero_mul, Nat.mul_zero]
    · obtain ⟨earlier, rfl⟩ := Nat.exists_eq_add_of_le' pages
      have beyond : earlier < roundTiesToEven total (limit * 2 ^ power) := by
        apply lt_roundTiesToEven scaled
        -- The page before the last one ends above the middle of the two multiples.
        have less : (2 ^ power * earlier + (2 ^ power - 1)) * limit < total := by
          apply mul_lt_of_lt_countFor positive
          rw [ceil, Nat.mul_add_one]
          omega
        have middle : 2 ^ power ≤ 2 * (2 ^ power - 1) := by omega
        calc
          (2 * earlier + 1) * (limit * 2 ^ power) =
              (2 * (2 ^ power * earlier) + 2 ^ power) * limit := by ring
          _ ≤ (2 * (2 ^ power * earlier) + 2 * (2 ^ power - 1)) * limit :=
            Nat.mul_le_mul_right _ (Nat.add_le_add_left middle _)
          _ = 2 * ((2 ^ power * earlier + (2 ^ power - 1)) * limit) := by ring
          _ < 2 * total := Nat.mul_lt_mul_of_pos_left less two_pos
      rw [Nat.le_antisymm most beyond, ceil, Nat.mul_comm]

theorem pageCount_eq_iff_of_many (positive : 1 ≤ limit)
    (many : 2 ^ (53 : Nat) ≤ total / limit) :
    pageCount (.ofNat total) limit = .ok (countFor total limit : Int) ↔
      2 ^ ((total / limit).log2 - 52) ∣ countFor total limit ∧
        total < leastInfinite * limit := by
  have nonzero : total / limit ≠ 0 := by
    intro zero
    rw [zero] at many
    exact absurd many (Nat.not_le.mpr (Nat.two_pow_pos 53))
  have bits : 53 ≤ (total / limit).log2 := (Nat.le_log2 nonzero).mpr many
  obtain ⟨power, place⟩ := Nat.exists_eq_add_of_le' (by omega : 52 ≤ (total / limit).log2)
  have coarse : 1 ≤ power := by omega
  rw [pageCount_of_large positive place, place, Nat.add_sub_cancel,
    ← roundTiesToEven_mul_eq_iff positive coarse]
  split_ifs with beyond
  · exact iff_of_false (by intro same; cases same) fun kept =>
      absurd kept.2 (Nat.not_lt.mpr beyond)
  · rw [Except.ok.injEq, Int.natCast_inj, and_iff_left (Nat.lt_of_not_le beyond)]

/-- The number of pages is right exactly if rounding keeps the ceiling. -/
theorem pageCount_eq_iff (total : Nat) (positive : 1 ≤ limit) :
    pageCount (.ofNat total) limit = .ok (countFor total limit : Int) ↔
      KeepsCeiling total limit := by
  unfold KeepsCeiling
  dsimp only
  split_ifs with proper few
  · exact pageCount_eq_iff_of_lt_one proper positive
  · exact pageCount_eq_iff_of_few positive (Nat.one_le_iff_ne_zero.mpr proper) few
  · exact pageCount_eq_iff_of_many positive (Nat.le_of_not_lt few)

example : KeepsCeiling (2 ^ 53) 3 ∧ ¬ KeepsCeiling (2 ^ 53 + 1) 1 := by
  decide +kernel

/-! ## The pages that are announced -/

theorem pageCount_of_beyond (positive : 1 ≤ limit) (beyond : leastInfinite * limit ≤ total) :
    pageCount (.ofNat total) limit = .error .outOfRange := by
  have least : 0 < leastInfinite := by
    decide +kernel
  have most : 0 < leastInfinite * limit := Nat.mul_pos least positive
  rw [pageCount_eq_ceilingOf total positive,
    ceilingOf_ofRatio_eq positive (most.trans_le beyond), if_pos beyond]

/-- The pages are counted by the ceiling of the number nearest to the quotient. -/
theorem exists_pageCount_eq_ceil (positive : 1 ≤ limit)
    (within : total < leastInfinite * limit) :
    ∃ significand exponent,
      Binary64.quotient total limit = .finite false significand exponent ∧
        IsNearest (total / limit) significand exponent ∧
          pageCount (.ofNat total) limit = .ok ⌈value significand exponent⌉ := by
  obtain ⟨significand, exponent, rounded, nearest⟩ :=
    exists_ofRatio_eq_finite positive false within
  refine ⟨significand, exponent, ?_, nearest, ?_⟩
  · rw [quotient_natCast, rounded]
  · rw [pageCount_eq_ceilingOf total positive, rounded, ceilingOf, ceiling_eq_ceil]

theorem ceil_div_eq_countFor (total : Nat) (positive : 1 ≤ limit) :
    ⌈(total : ℚ) / limit⌉ = countFor total limit :=
  ceil_natCast_div positive

theorem exists_isNearest_of_pageCount (positive : 1 ≤ limit) {pages : Int}
    (known : pageCount (.ofNat total) limit = .ok pages) :
    total < leastInfinite * limit ∧ ∃ significand exponent,
      IsNearest (total / limit) significand exponent ∧
        pages = ⌈value significand exponent⌉ := by
  rcases Nat.lt_or_ge total (leastInfinite * limit) with within | beyond
  · obtain ⟨significand, exponent, -, nearest, ceil⟩ :=
      exists_pageCount_eq_ceil positive within
    rw [known, Except.ok.injEq] at ceil
    exact ⟨within, significand, exponent, nearest, ceil⟩
  · rw [pageCount_of_beyond positive beyond] at known
    cases known

theorem eq_outOfRange_of_pageCount (positive : 1 ≤ limit) {failure : Failure}
    (known : pageCount (.ofNat total) limit = .error failure) : failure = .outOfRange := by
  rcases Nat.lt_or_ge total (leastInfinite * limit) with within | beyond
  · obtain ⟨significand, exponent, -, -, ceil⟩ := exists_pageCount_eq_ceil positive within
    rw [known] at ceil
    cases ceil
  · rw [pageCount_of_beyond positive beyond] at known
    cases known
    rfl

theorem exists_natCast_of_pageCount {pages : Int}
    (known : pageCount (.ofNat total) limit = .ok pages) : ∃ count : Nat, pages = count := by
  rcases Nat.eq_zero_or_pos limit with rfl | positive
  · cases known
    exact ⟨0, rfl⟩
  · obtain ⟨-, significand, exponent, -, rfl⟩ := exists_isNearest_of_pageCount positive known
    exact ⟨_, (ceiling_eq_ceil significand exponent).symm⟩

end Count

section Answers

open Binary64

variable {fresh : Nat → Fresh} {itemType : ItemType} {raw : Json} {listed items : List Json}
  {total : Nat} {request : PageRequest}

/-- The page of a request, with the number of pages that is computed. -/
def ofCount (items : List Json) (total : Nat) (request : PageRequest) :
    Except Failure Page :=
  (pageCount (.ofNat total) request.limit).map fun pages =>
    { total, page := request.page, pages := pages.toNat, items }

theorem ofEntities_eq_ofCount : ofEntities items total request = ofCount items total request := by
  unfold ofEntities ofCount
  cases pageCount (.ofNat total) request.limit <;> rfl

/-- All items that can be listed and read make a page. -/
theorem ofRequest_eq_ofCount (listing : elements raw = .ok listed)
    (valid : itemType.readItems fresh listed = .ok items) :
    ofRequest fresh itemType raw (.ofNat total) request = ofCount items total request := by
  unfold ofRequest ofCount
  cases outcome : pageCount (.ofNat total) request.limit with
  | error failure => rfl
  | ok pages =>
      obtain ⟨count, rfl⟩ := exists_natCast_of_pageCount outcome
      have made : ofMembers fresh itemType
          [("total", .ofNat total), ("page", .ofNat request.page), ("pages", .ofNat count),
            ("data", .arr listed)] =
          .ok { total, page := request.page, pages := count, items } := by
        have numbers : ∀ number : Nat, Json.asNatural 0 (.ofNat number) = .ok number :=
          fun number => PageRequest.asNatural_ofNat (Nat.zero_le number)
        simp only [ofMembers, itemsOf, Members.required, Members.find?, Text.ofString_inj,
          String.reduceEq, ↓reduceIte, numbers, valid, Checked.ofMember, Checked.within,
          Checked.both, Except.map]
      rw [listing]
      exact congrArg Checked.orFail made

theorem ofCount_eq_ok_iff {page : Page} :
    ofCount items total request = .ok page ↔
      pageCount (.ofNat total) request.limit = .ok (page.pages : Int) ∧
        page.total = total ∧ page.page = request.page ∧ page.items = items := by
  unfold ofCount
  cases outcome : pageCount (.ofNat total) request.limit with
  | error failure => exact iff_of_false nofun (by rintro ⟨⟨⟩, -⟩)
  | ok pages =>
      obtain ⟨count, rfl⟩ := exists_natCast_of_pageCount outcome
      rw [Except.map, Except.ok.injEq, Except.ok.injEq, Int.natCast_inj, Int.toNat_natCast]
      constructor
      · rintro rfl
        exact ⟨rfl, rfl, rfl, rfl⟩
      · rintro ⟨rfl, rfl, same, rfl⟩
        rw [← same]

theorem ofCount_eq_error_iff {failure : Failure} :
    ofCount items total request = .error failure ↔
      pageCount (.ofNat total) request.limit = .error failure := by
  unfold ofCount
  cases pageCount (.ofNat total) request.limit <;> simp [Except.map]

/-- What the answer to a request is, with so many items in total. -/
structure Announces (answer : Except Failure Page) (items : List Json) (total : Nat)
    (request : PageRequest) : Prop where
  /-- There is a page unless the quotient is rounded beyond the range. -/
  served : (∃ page, answer = .ok page) ↔ total < leastInfinite * request.limit
  refused : ∀ failure, answer = .error failure → failure = .outOfRange
  kept : ∀ page, answer = .ok page →
    page.total = total ∧ page.page = request.page ∧ page.items = items
  /-- The pages are counted by the number nearest to the quotient. -/
  counted : ∀ page, answer = .ok page → ∃ significand exponent,
    IsNearest (total / request.limit) significand exponent ∧
      (page.pages : Int) = ⌈value significand exponent⌉
  /-- All items are on these pages and no page is empty exactly if rounding keeps the
  ceiling. -/
  correct : (∃ page, answer = .ok page ∧
      ((page.pages : Int) - 1) * request.limit < total ∧
        (total : Int) ≤ page.pages * request.limit) ↔
    KeepsCeiling total request.limit

theorem announces_ofCount (positive : 1 ≤ request.limit) (items : List Json) (total : Nat) :
    Announces (ofCount items total request) items total request where
  served := by
    constructor
    · rintro ⟨page, served⟩
      exact (exists_isNearest_of_pageCount positive (ofCount_eq_ok_iff.mp served).1).1
    · intro within
      obtain ⟨significand, exponent, -, -, known⟩ := exists_pageCount_eq_ceil positive within
      rw [ofCount, known]
      exact ⟨_, rfl⟩
  refused := by
    intro failure refused
    exact eq_outOfRange_of_pageCount positive (ofCount_eq_error_iff.mp refused)
  kept := by
    intro page served
    exact (ofCount_eq_ok_iff.mp served).2
  counted := by
    intro page served
    exact (exists_isNearest_of_pageCount positive (ofCount_eq_ok_iff.mp served).1).2
  correct := by
    rw [← pageCount_eq_iff total positive]
    constructor
    · rintro ⟨page, served, right⟩
      rw [← (eq_countFor_iff positive).mpr right]
      exact (ofCount_eq_ok_iff.mp served).1
    · intro known
      refine ⟨{ total, page := request.page, pages := countFor total request.limit, items },
        ofCount_eq_ok_iff.mpr ⟨known, rfl, rfl, rfl⟩, ?_⟩
      exact (eq_countFor_iff positive).mp rfl

/-- Whatever the sizes of the numbers, this is what a page of valid items announces,
whether the items are read or written by the program itself. -/
theorem announces (positive : 1 ≤ request.limit) (total : Nat) :
    (∀ fresh itemType raw listed items, elements raw = .ok listed →
        itemType.readItems fresh listed = .ok items →
          Announces (ofRequest fresh itemType raw (.ofNat total) request) items total
            request) ∧
      ∀ items, Announces (ofEntities items total request) items total request := by
  constructor
  · intro fresh itemType raw listed items listing valid
    rw [ofRequest_eq_ofCount listing valid]
    exact announces_ofCount positive items total
  · intro items
    rw [ofEntities_eq_ofCount]
    exact announces_ofCount positive items total

/-- A request for single items. -/
def singleItems : PageRequest :=
  { model := .plain, page? := none, limit? := some 1, search? := none, sort? := none,
    order? := none }

def integers : ItemType :=
  .plain { kind := .integer, nullable := false }

def someFresh : Fresh where
  id := { bits := 1 }
  now := ⟨1, by decide⟩

theorem singleItems_announces :
    1 ≤ singleItems.limit ∧ elements (.arr [.int 7]) = .ok [.int 7] ∧
      integers.readItems (fun _ => someFresh) [.int 7] = .ok [.int 7] ∧
        Announces
          (ofRequest (fun _ => someFresh) integers (.arr [.int 7]) (.ofNat (2 ^ 53 + 1))
            singleItems)
          [.int 7] (2 ^ 53 + 1) singleItems :=
  ⟨by decide, rfl, rfl, (announces (by decide) (2 ^ 53 + 1)).1 _ _ _ _ _ rfl rfl⟩

/-- With one item more than numbers of 53 bits can count, the last one is on no page. -/
theorem singleItems_missed :
    singleItems.limit = 1 ∧ ∃ page,
      ofRequest (fun _ => someFresh) integers (.arr [.int 7]) (.ofNat (2 ^ 53 + 1))
          singleItems = .ok page ∧
        page.pages = 2 ^ 53 ∧ ¬ 2 ^ 53 + 1 ≤ page.pages * singleItems.limit := by
  have limit : singleItems.limit = 1 := rfl
  have count : pageCount (.ofNat (2 ^ 53 + 1)) singleItems.limit = .ok (2 ^ 53 : Nat) := by
    have inRange : ¬ leastInfinite * 1 ≤ 2 ^ 53 + 1 := by
      decide +kernel
    have rounded : roundTiesToEven (2 ^ 53 + 1) (1 * 2 ^ 1) * 2 ^ 1 = 2 ^ 53 := by
      decide +kernel
    have place : ((2 ^ 53 + 1) / 1).log2 = 1 + 52 := by
      decide +kernel
    rw [limit, pageCount_of_large (by decide) place, if_neg inRange, rounded]
  rw [ofRequest_eq_ofCount rfl rfl]
  exact ⟨limit, ⟨2 ^ 53 + 1, 1, 2 ^ 53, [.int 7]⟩,
    ofCount_eq_ok_iff.mpr ⟨count, rfl, rfl, rfl⟩, rfl, by decide⟩

end Answers

/-! ## Few items -/

section Few

open Binary64

variable {total limit : Nat}

/-- A number that is nearest to a quotient and has the same ceiling. -/
structure KeepsIntegers (quotient : ℚ) (significand : Nat) (exponent : Int) : Prop where
  nearest : IsNearest quotient significand exponent
  ceil : ⌈value significand exponent⌉ = ⌈quotient⌉
  /-- The quotient is not rounded down to an integer below it. -/
  above : ∀ whole : Int, whole < quotient → whole < value significand exponent
  /-- No positive quotient becomes zero. -/
  positive : 0 < quotient → 0 < value significand exponent

/-- Of totals of 53 bits, the pages are counted exactly. -/
theorem pageCount_exact (few : total ≤ 2 ^ 53) (positive : 1 ≤ limit)
    (bounded : limit ≤ 2 ^ (1000 : Nat)) :
    ∃ significand exponent,
      Binary64.quotient total limit = .finite false significand exponent ∧
        KeepsIntegers (total / limit) significand exponent ∧
          pageCount (.ofNat total) limit = .ok ⌈(total : ℚ) / limit⌉ := by
  have known := pageCount_ofNat few positive bounded
  rw [← ceil_div_eq_countFor total positive] at known
  obtain ⟨within, -⟩ := exists_isNearest_of_pageCount positive known
  obtain ⟨significand, exponent, rounded, nearest, count⟩ :=
    exists_pageCount_eq_ceil positive within
  have ceil : ⌈value significand exponent⌉ = ⌈(total : ℚ) / limit⌉ := by
    rw [known, Except.ok.injEq] at count
    exact count.symm
  have above : ∀ whole : Int, (whole : ℚ) < total / limit →
      whole < value significand exponent := by
    intro whole less
    rw [← Int.lt_ceil, ceil, Int.lt_ceil]
    exact less
  refine ⟨significand, exponent, rounded, ⟨nearest, ceil, above, ?_⟩, known⟩
  intro items
  exact_mod_cast above 0 (by exact_mod_cast items)

/-- The greatest of these totals, in pages of three items. -/
theorem pageCount_exact_three :
    2 ^ 53 ≤ 2 ^ 53 ∧ 1 ≤ 3 ∧ 3 ≤ 2 ^ (1000 : Nat) ∧
      ∃ significand exponent,
        Binary64.quotient (2 ^ 53 : Nat) 3 = .finite false significand exponent ∧
          KeepsIntegers (((2 ^ 53 : Nat) : ℚ) / (3 : Nat)) significand exponent ∧
            pageCount (.ofNat (2 ^ 53)) 3 = .ok ⌈((2 ^ 53 : Nat) : ℚ) / (3 : Nat)⌉ := by
  have bounded : 3 ≤ 2 ^ (1000 : Nat) := by
    decide +kernel
  exact ⟨Nat.le_refl _, by decide, bounded,
    pageCount_exact (Nat.le_refl _) (by decide) bounded⟩

end Few

end Page

end Folio
