import Folio.Text.Case

/-!
# Case tables as runs

What a look-up in a sorted case table finds, and two relations between a run and
a table that are read off the ends of the runs alone: no code point to which the
run maps is listed in the table, or the table maps all of them back.  The
relations are computed with the operations on numbers that evaluate fastest, so
that whole tables can be checked.
-/

namespace Folio.Text

namespace CaseRun

def imageFirst (run : CaseRun) : Nat := run.partner run.first

def imageLast (run : CaseRun) : Nat := run.partner run.last

def single (code : Nat) : CaseRun where
  first := code
  last := code
  stride := 1
  shift := 0

/-- Every run ends before the next one begins. -/
def isSorted : List CaseRun → Bool
  | [] => true
  | [only] => Nat.ble only.first only.last
  | run :: next :: later =>
      Nat.ble run.first run.last && Nat.blt run.last next.first &&
        isSorted (next :: later)

/-- The code points to which a run maps are those of characters. -/
def mapsToCharacters (run : CaseRun) : Bool :=
  decide (0 ≤ (run.first : Int) + run.shift) &&
    (Nat.blt run.imageLast 0xD800 ||
      (Nat.blt 0xDFFF run.imageFirst && Nat.blt run.imageLast 0x110000))

/-- Both runs list every other code point, and never the same after the first has
been mapped. -/
def alternates (run other : CaseRun) : Bool :=
  Nat.beq other.stride 2 && (Nat.beq run.stride 2 || Nat.beq run.first run.last) &&
    !(Nat.beq (run.imageFirst % 2) (other.first % 2))

/-- A sorted table lists no code point to which the run maps. -/
def isMissedBy (run : CaseRun) : List CaseRun → Bool
  | [] => true
  | other :: later =>
      bif Nat.blt other.last run.imageFirst then isMissedBy run later
      else
        Nat.blt run.imageLast other.first ||
          (alternates run other && isMissedBy run later)

/-- Sorted expansions list no code point to which the run maps. -/
def isMissedByExpansions (run : CaseRun) : List (Nat × List Nat) → Bool
  | [] => true
  | entry :: later =>
      bif Nat.blt entry.1 run.imageFirst then isMissedByExpansions run later
      else Nat.blt run.imageLast entry.1

/-- The other run maps back every code point to which the run maps. -/
def isReturnedByRun (run other : CaseRun) : Bool :=
  Nat.ble run.imageLast other.last && Nat.ble other.first run.imageFirst &&
    (Nat.beq other.stride 1 ||
      (Nat.beq ((run.imageFirst - other.first) % other.stride) 0 &&
        (Nat.beq run.stride other.stride || Nat.beq run.first run.last))) &&
    decide (other.shift = -run.shift)

/-- A table maps back every code point to which the run maps. -/
def isReturnedBy (run : CaseRun) (table : List CaseRun) : Bool :=
  table.any run.isReturnedByRun

def codes (run : CaseRun) : List Nat :=
  (List.range ((run.last - run.first) / run.stride + 1)).map fun index =>
    run.first + index * run.stride

/-! ## Looking up -/

theorem covers_iff {run : CaseRun} {code : Nat} :
    run.covers code = true ↔
      run.first ≤ code ∧ code ≤ run.last ∧
        (code - run.first) % run.stride = 0 := by
  simp [covers, and_assoc]

theorem single_covers (code : Nat) : (single code).covers code = true := by
  simp [covers, single]

theorem single_partner (code : Nat) : (single code).partner code = code := by
  simp [partner, single]

theorem mem_codes_of_covers {run : CaseRun} {code : Nat}
    (covered : run.covers code = true) :
    code ∈ run.codes := by
  obtain ⟨above, below, aligned⟩ := covers_iff.mp covered
  refine List.mem_map.mpr ⟨(code - run.first) / run.stride, ?_, ?_⟩
  · rw [List.mem_range, Nat.lt_succ_iff]
    exact Nat.div_le_div_right (Nat.sub_le_sub_right below run.first)
  · rw [Nat.div_mul_cancel (Nat.dvd_of_mod_eq_zero aligned)]
    exact Nat.add_sub_cancel' above

theorem exists_of_find?_eq_some {code target : Nat} {runs : List CaseRun}
    (found : find? code runs = some target) :
    ∃ run ∈ runs, run.covers code = true ∧ target = run.partner code := by
  induction runs with
  | nil => simp [find?] at found
  | cons run later inductionHypothesis =>
      simp only [find?] at found
      split at found
      · cases found
      · split at found
        · rename_i covered
          cases found
          exact ⟨run, List.mem_cons_self, covered, rfl⟩
        · obtain ⟨other, member, rest⟩ := inductionHypothesis found
          exact ⟨other, List.mem_cons_of_mem run member, rest⟩

private theorem first_le_last_of_isSorted {run : CaseRun} {later : List CaseRun}
    (sorted : isSorted (run :: later) = true) :
    run.first ≤ run.last := by
  cases later with
  | nil => exact Nat.ble_eq.mp sorted
  | cons next later =>
      simp only [isSorted, Bool.and_eq_true, Nat.ble_eq] at sorted
      exact sorted.1.1

private theorem isSorted_tail {run : CaseRun} {later : List CaseRun}
    (sorted : isSorted (run :: later) = true) :
    isSorted later = true := by
  cases later with
  | nil => rfl
  | cons next later =>
      simp only [isSorted, Bool.and_eq_true] at sorted
      exact sorted.2

private theorem last_lt_first_of_isSorted {run other : CaseRun}
    {later : List CaseRun} (sorted : isSorted (run :: later) = true)
    (member : other ∈ later) :
    run.last < other.first := by
  induction later generalizing run with
  | nil => cases member
  | cons next later inductionHypothesis =>
      have rest := isSorted_tail sorted
      have nonempty := first_le_last_of_isSorted rest
      have before : run.last < next.first := by
        simp only [isSorted, Bool.and_eq_true, Nat.blt_eq] at sorted
        exact sorted.1.2
      rcases List.mem_cons.mp member with rfl | tailMember
      · exact before
      · have after := inductionHypothesis rest tailMember
        omega

/-- A code point that a sorted table lists is found in the run that lists it. -/
theorem find?_of_covers {code : Nat} {run : CaseRun} {runs : List CaseRun}
    (sorted : isSorted runs = true) (member : run ∈ runs)
    (covered : run.covers code = true) :
    find? code runs = some (run.partner code) := by
  have above := (covers_iff.mp covered).1
  induction runs with
  | nil => cases member
  | cons head later inductionHypothesis =>
      simp only [find?]
      rcases List.mem_cons.mp member with rfl | tailMember
      · rw [if_neg (Nat.not_lt.mpr above), if_pos covered]
      · have before := last_lt_first_of_isSorted sorted tailMember
        have nonempty := first_le_last_of_isSorted sorted
        have uncovered : ¬ head.covers code = true := by
          intro headCovered
          have below := (covers_iff.mp headCovered).2.1
          omega
        rw [if_neg (by omega), if_neg uncovered]
        exact inductionHypothesis (isSorted_tail sorted) tailMember

/-! ## Images of runs -/

section Image

variable {run : CaseRun} {code : Nat}

theorem imageFirst_eq (characters : run.mapsToCharacters = true) :
    ((run.imageFirst : Nat) : Int) = (run.first : Int) + run.shift := by
  simp only [mapsToCharacters, Bool.and_eq_true, decide_eq_true_eq] at characters
  simp only [imageFirst, partner, Int.ofNat_eq_natCast]
  omega

theorem partner_eq (characters : run.mapsToCharacters = true)
    (covered : run.covers code = true) :
    ((run.partner code : Nat) : Int) = (code : Int) + run.shift := by
  have above := (covers_iff.mp covered).1
  simp only [mapsToCharacters, Bool.and_eq_true, decide_eq_true_eq] at characters
  simp only [partner, Int.ofNat_eq_natCast]
  omega

theorem imageFirst_le_partner (covered : run.covers code = true) :
    run.imageFirst ≤ run.partner code := by
  have above := (covers_iff.mp covered).1
  simp only [imageFirst, partner, Int.ofNat_eq_natCast]
  omega

theorem partner_le_imageLast (covered : run.covers code = true) :
    run.partner code ≤ run.imageLast := by
  have below := (covers_iff.mp covered).2.1
  simp only [imageLast, partner, Int.ofNat_eq_natCast]
  omega

theorem isValidChar_partner (characters : run.mapsToCharacters = true)
    (covered : run.covers code = true) :
    (run.partner code).isValidChar := by
  have low := imageFirst_le_partner covered
  have high := partner_le_imageLast covered
  simp only [mapsToCharacters, Bool.and_eq_true, Bool.or_eq_true,
    Nat.blt_eq] at characters
  simp only [Nat.isValidChar]
  omega

private theorem not_covers_of_alternates {other : CaseRun}
    (characters : run.mapsToCharacters = true) (covered : run.covers code = true)
    (alternating : alternates run other = true) :
    ¬ other.covers (run.partner code) = true := by
  intro otherCovered
  have own := partner_eq characters covered
  obtain ⟨above, below, aligned⟩ := covers_iff.mp covered
  obtain ⟨otherAbove, -, otherAligned⟩ := covers_iff.mp otherCovered
  have start := imageFirst_eq characters
  simp only [alternates, Bool.and_eq_true, Bool.or_eq_true, Nat.beq_eq,
    Bool.not_eq_true'] at alternating
  obtain ⟨⟨otherStride, shape⟩, differs⟩ := alternating
  have parity := Nat.ne_of_beq_eq_false differs
  rw [otherStride] at otherAligned
  rcases shape with stride | one
  · rw [stride] at aligned
    omega
  · omega

/-- A run that a sorted table misses maps to code points that are not found. -/
theorem find?_partner_eq_none {table : List CaseRun}
    (characters : run.mapsToCharacters = true)
    (missed : run.isMissedBy table = true) (covered : run.covers code = true) :
    find? (run.partner code) table = none := by
  have low := imageFirst_le_partner covered
  have high := partner_le_imageLast covered
  induction table with
  | nil => rfl
  | cons other later inductionHypothesis =>
      simp only [isMissedBy] at missed
      simp only [find?]
      cases ended : Nat.blt other.last run.imageFirst with
      | true =>
          rw [ended, cond_true] at missed
          rw [Nat.blt_eq] at ended
          have uncovered : ¬ other.covers (run.partner code) = true := by
            intro otherCovered
            have below := (covers_iff.mp otherCovered).2.1
            omega
          rw [if_neg uncovered, inductionHypothesis missed, ite_self]
      | false =>
          rw [ended, cond_false, Bool.or_eq_true, Bool.and_eq_true,
            Nat.blt_eq] at missed
          rcases missed with beyond | ⟨alternating, rest⟩
          · rw [if_pos (by omega)]
          · rw [if_neg (not_covers_of_alternates characters covered alternating),
              inductionHypothesis rest, ite_self]

theorem findExpansion?_partner_eq_none {expansions : List (Nat × List Nat)}
    (missed : run.isMissedByExpansions expansions = true)
    (covered : run.covers code = true) :
    findExpansion? (run.partner code) expansions = none := by
  have low := imageFirst_le_partner covered
  have high := partner_le_imageLast covered
  induction expansions with
  | nil => rfl
  | cons entry later inductionHypothesis =>
      obtain ⟨source, target⟩ := entry
      simp only [isMissedByExpansions] at missed
      simp only [findExpansion?]
      cases before : Nat.blt source run.imageFirst with
      | true =>
          rw [before, cond_true] at missed
          rw [Nat.blt_eq] at before
          rw [if_neg (show ¬ run.partner code = source by omega),
            inductionHypothesis missed, ite_self]
      | false =>
          rw [before, cond_false, Nat.blt_eq] at missed
          rw [if_pos (by omega)]

private theorem covers_of_isReturnedByRun {other : CaseRun}
    (characters : run.mapsToCharacters = true)
    (returned : run.isReturnedByRun other = true)
    (covered : run.covers code = true) :
    other.covers (run.partner code) = true := by
  have low := imageFirst_le_partner covered
  have high := partner_le_imageLast covered
  have start := imageFirst_eq characters
  have own := partner_eq characters covered
  obtain ⟨above, below, aligned⟩ := covers_iff.mp covered
  simp only [isReturnedByRun, Bool.and_eq_true, Bool.or_eq_true, Nat.ble_eq,
    Nat.beq_eq] at returned
  obtain ⟨⟨⟨otherBelow, otherAbove⟩, grid⟩, -⟩ := returned
  refine covers_iff.mpr ⟨by omega, by omega, ?_⟩
  rcases grid with dense | ⟨opening, step⟩
  · rw [dense, Nat.mod_one]
  · have distance : run.partner code - other.first =
        (run.imageFirst - other.first) + (code - run.first) := by omega
    have offset : (code - run.first) % other.stride = 0 := by
      rcases step with same | one
      · rwa [← same]
      · have zero : code - run.first = 0 := by omega
        rw [zero, Nat.zero_mod]
    rw [distance, Nat.add_mod, opening, offset, Nat.zero_mod]

/-- A sorted table that maps a run back leads from each target of the run to its
source. -/
theorem find?_partner_of_isReturnedBy {table : List CaseRun}
    (sorted : isSorted table = true) (characters : run.mapsToCharacters = true)
    (returned : run.isReturnedBy table = true) (covered : run.covers code = true) :
    find? (run.partner code) table = some code := by
  obtain ⟨other, member, back⟩ := List.any_eq_true.mp returned
  have own := partner_eq characters covered
  have otherCovered := covers_of_isReturnedByRun characters back covered
  have shift : other.shift = -run.shift := by
    simp only [isReturnedByRun, Bool.and_eq_true, decide_eq_true_eq] at back
    exact back.2
  rw [find?_of_covers sorted member otherCovered, Option.some.injEq]
  simp only [partner, Int.ofNat_eq_natCast] at own ⊢
  omega

end Image

end CaseRun

end Folio.Text
