import Folio.Proofs.Text.CaseRun

/-!
# The case tables

What the kernel finds by running through the case tables, and what this says
about single code points: nothing that begins an uppercase form is listed in the
uppercase tables, and these lead back from the lowercase form of a character that
they do not list, six characters excepted.
-/

namespace Folio.Text

/-- The code points of the characters that the uppercase tables do not list and
that are not the uppercase form of their lowercase form either: a dotted I, a
theta symbol, a sharp S, and the signs for ohm, kelvin and ångström. -/
def strandedCodes : List Nat :=
  [0x0130, 0x03F4, 0x1E9E, 0x2126, 0x212A, 0x212B]

def listsUpper (code : Nat) : Bool :=
  (findExpansion? code upperExpansions).isSome ||
    (CaseRun.find? code upperRuns).isSome

/-- The runs of the uppercase table, and the first code point of each
expansion. -/
def upperTargets : List CaseRun :=
  upperRuns ++ upperExpansions.map fun entry => CaseRun.single (entry.2.headD 0)

/-- The uppercase tables list nothing to which the run maps. -/
def isSettled (target : CaseRun) : Bool :=
  target.mapsToCharacters && target.isMissedBy upperRuns &&
    target.isMissedByExpansions upperExpansions

private theorem upperTargets_settled : upperTargets.all isSettled = true := by
  decide +kernel

private theorem upperRuns_sorted : CaseRun.isSorted upperRuns = true := by
  decide +kernel

private theorem upperExpansions_nonempty :
    upperExpansions.all (fun entry => !entry.2.isEmpty) = true := by
  decide +kernel

private theorem upperExpansions_missed :
    upperExpansions.all (fun entry =>
      (CaseRun.single entry.1).mapsToCharacters &&
        (CaseRun.single entry.1).isMissedBy upperRuns) = true := by
  decide +kernel

/-- The uppercase table leads back to a code point of a run, unless the
uppercase tables list it or it is stranded. -/
def isReversible (run : CaseRun) (code : Nat) : Bool :=
  listsUpper code || CaseRun.find? (run.partner code) upperRuns == some code ||
    strandedCodes.contains code

/-- The uppercase table maps a whole run back, or all that it lists is
reversible. -/
def runIsReversible (run : CaseRun) : Bool :=
  run.mapsToCharacters &&
    (run.isReturnedBy upperRuns || run.codes.all (isReversible run))

private theorem lowerRuns_reversible : lowerRuns.all runIsReversible = true := by
  decide +kernel

private theorem upperForms_unseparated :
    upperRuns.all (fun run =>
      Nat.blt run.imageLast 0x5F || Nat.blt 0x5F run.imageFirst) = true ∧
    upperExpansions.all (fun entry =>
      entry.2.all fun code => !Nat.beq code 0x5F) = true := by
  decide +kernel

/-! ## Single code points -/

theorem listsUpper_eq_false_iff {code : Nat} :
    listsUpper code = false ↔
      findExpansion? code upperExpansions = none ∧
        CaseRun.find? code upperRuns = none := by
  simp [listsUpper]

theorem mem_of_findExpansion?_eq_some {code : Nat} {target : List Nat}
    {expansions : List (Nat × List Nat)}
    (found : findExpansion? code expansions = some target) :
    (code, target) ∈ expansions := by
  induction expansions with
  | nil => simp [findExpansion?] at found
  | cons entry later inductionHypothesis =>
      obtain ⟨source, codes⟩ := entry
      simp only [findExpansion?] at found
      split at found
      · cases found
      · split at found
        · rename_i same
          cases found
          rw [same]
          exact List.mem_cons_self
        · exact List.mem_cons_of_mem _ (inductionHypothesis found)

private theorem listsUpper_partner_of_mem {target : CaseRun} {code : Nat}
    (member : target ∈ upperTargets) (covered : target.covers code = true) :
    (target.partner code).isValidChar ∧
      listsUpper (target.partner code) = false := by
  have settled := List.all_eq_true.mp upperTargets_settled target member
  simp only [isSettled, Bool.and_eq_true] at settled
  obtain ⟨⟨characters, missed⟩, missedByExpansions⟩ := settled
  exact ⟨CaseRun.isValidChar_partner characters covered,
    listsUpper_eq_false_iff.mpr
      ⟨CaseRun.findExpansion?_partner_eq_none missedByExpansions covered,
        CaseRun.find?_partner_eq_none characters missed covered⟩⟩

/-- The uppercase table maps to characters that are not listed. -/
theorem listsUpper_of_find? {code target : Nat}
    (found : CaseRun.find? code upperRuns = some target) :
    target.isValidChar ∧ listsUpper target = false := by
  obtain ⟨run, member, covered, rfl⟩ := CaseRun.exists_of_find?_eq_some found
  exact listsUpper_partner_of_mem (List.mem_append_left _ member) covered

/-- Expansions begin with characters that are not listed. -/
theorem exists_cons_of_findExpansion? {code : Nat} {target : List Nat}
    (found : findExpansion? code upperExpansions = some target) :
    ∃ first later, target = first :: later ∧ first.isValidChar ∧
      listsUpper first = false := by
  have member := mem_of_findExpansion?_eq_some found
  have nonempty := List.all_eq_true.mp upperExpansions_nonempty _ member
  cases target with
  | nil => cases nonempty
  | cons first later =>
      have listed : CaseRun.single first ∈ upperTargets :=
        List.mem_append_right _ (List.mem_map.mpr ⟨_, member, rfl⟩)
      have unlisted := listsUpper_partner_of_mem listed
        (CaseRun.single_covers first)
      rw [CaseRun.single_partner] at unlisted
      exact ⟨first, later, rfl, unlisted⟩

theorem ne_underscore_of_find? {code target : Nat}
    (found : CaseRun.find? code upperRuns = some target) :
    target ≠ 0x5F := by
  obtain ⟨run, member, covered, rfl⟩ := CaseRun.exists_of_find?_eq_some found
  have apart := List.all_eq_true.mp upperForms_unseparated.1 run member
  have low := CaseRun.imageFirst_le_partner covered
  have high := CaseRun.partner_le_imageLast covered
  simp only [Bool.or_eq_true, Nat.blt_eq] at apart
  omega

theorem underscore_not_mem_of_findExpansion? {code : Nat} {target : List Nat}
    (found : findExpansion? code upperExpansions = some target) :
    0x5F ∉ target := by
  intro underscore
  have apart := List.all_eq_true.mp upperForms_unseparated.2 _
    (mem_of_findExpansion?_eq_some found)
  have different := List.all_eq_true.mp apart _ underscore
  cases different

theorem findExpansion?_of_find? {code target : Nat}
    (found : CaseRun.find? code upperRuns = some target) :
    findExpansion? code upperExpansions = none := by
  cases expansion : findExpansion? code upperExpansions with
  | none => rfl
  | some codes =>
      have member := mem_of_findExpansion?_eq_some expansion
      have missed := List.all_eq_true.mp upperExpansions_missed _ member
      rw [Bool.and_eq_true] at missed
      have unfound := CaseRun.find?_partner_eq_none missed.1 missed.2
        (CaseRun.single_covers code)
      rw [CaseRun.single_partner, found] at unfound
      cases unfound

/-- The uppercase table leads back from the lowercase form of a code point that
the uppercase tables do not list. -/
theorem find?_upperRuns_of_find?_lowerRuns {code target : Nat}
    (found : CaseRun.find? code lowerRuns = some target)
    (unlisted : listsUpper code = false) (plain : code ∉ strandedCodes) :
    target.isValidChar ∧ CaseRun.find? target upperRuns = some code := by
  obtain ⟨run, member, covered, rfl⟩ := CaseRun.exists_of_find?_eq_some found
  have reversible := List.all_eq_true.mp lowerRuns_reversible run member
  simp only [runIsReversible, Bool.and_eq_true, Bool.or_eq_true] at reversible
  obtain ⟨characters, returned | checked⟩ := reversible
  · exact ⟨CaseRun.isValidChar_partner characters covered,
      CaseRun.find?_partner_of_isReturnedBy upperRuns_sorted characters returned
        covered⟩
  · have own := List.all_eq_true.mp checked _ (CaseRun.mem_codes_of_covers covered)
    simp only [isReversible, unlisted, Bool.false_or, Bool.or_eq_true, beq_iff_eq,
      List.contains_iff_mem, plain, or_false] at own
    exact ⟨CaseRun.isValidChar_partner characters covered, own⟩

end Folio.Text
