import Folio.Proofs.Text.Capital

/-!
# Letter case and encodable texts

The case tables lead from characters to characters, and list no half of a surrogate
pair.  So the uppercase and the lowercase form of a code point are made of characters
exactly if it is one, and the lowercase form of a text can be encoded exactly if the
text can.
-/

namespace Folio.Text

/-- No code point of the run is half of a surrogate pair. -/
def CaseRun.listsCharacters (run : CaseRun) : Bool :=
  Nat.blt run.last 0xD800 || Nat.blt 0xDFFF run.first

/-- The entry leads from a character to characters. -/
def expandsCharacters (entry : Nat × List Nat) : Bool :=
  (CaseRun.single entry.1).listsCharacters &&
    entry.2.all fun code => (CaseRun.single code).mapsToCharacters

def leadsToCharacters (expansions : List (Nat × List Nat)) (runs : List CaseRun) :
    Bool :=
  expansions.all expandsCharacters &&
    runs.all fun run => run.listsCharacters && run.mapsToCharacters

private theorem upperTables_lead :
    leadsToCharacters upperExpansions upperRuns = true := by
  decide +kernel

private theorem lowerTables_lead :
    leadsToCharacters lowerExpansions lowerRuns = true := by
  decide +kernel

theorem CaseRun.isValidChar_of_listsCharacters {run : CaseRun} {code : Nat}
    (characters : run.listsCharacters = true) (covered : run.covers code = true)
    (inRange : code < 0x110000) :
    code.isValidChar := by
  obtain ⟨above, below, -⟩ := CaseRun.covers_iff.mp covered
  simp only [listsCharacters, Bool.or_eq_true, Nat.blt_eq] at characters
  simp only [Nat.isValidChar]
  omega

private theorem isCharacter_ofNat {code : Nat} (valid : code.isValidChar) :
    (CodePoint.ofNat code).isCharacter = true := by
  rw [CodePoint.isCharacter_iff,
    CodePoint.code_ofNat (CodePoint.inRange_of_isValidChar valid)]
  exact valid

section Mapped

variable {expansions : List (Nat × List Nat)} {runs : List CaseRun}
  {fallback : CodePoint → List CodePoint} {point : CodePoint}

/-- Only characters are listed, and they are mapped to characters; all the rest is
up to the fallback. -/
theorem isCharacter_of_mem_mapCase
    (leads : leadsToCharacters expansions runs = true)
    (otherwise : ∀ other ∈ fallback point, other.isCharacter = point.isCharacter) :
    ∀ other ∈ mapCase expansions runs fallback point,
      other.isCharacter = point.isCharacter := by
  simp only [leadsToCharacters, Bool.and_eq_true, List.all_eq_true] at leads
  obtain ⟨expanded, mapped⟩ := leads
  intro other member
  unfold mapCase at member
  split at member
  · rename_i codes expansion
    have entry := expanded _ (mem_of_findExpansion?_eq_some expansion)
    simp only [expandsCharacters, Bool.and_eq_true, List.all_eq_true] at entry
    obtain ⟨code, codeMember, rfl⟩ := List.mem_map.mp member
    have target := CaseRun.isValidChar_partner (entry.2 code codeMember)
      (CaseRun.single_covers code)
    rw [CaseRun.single_partner] at target
    rw [isCharacter_ofNat target, eq_comm, CodePoint.isCharacter_iff]
    exact CaseRun.isValidChar_of_listsCharacters entry.1
      (CaseRun.single_covers point.code) point.inRange
  · split at member
    · rename_i code found
      rw [List.mem_singleton] at member
      obtain ⟨run, listed, covered, rfl⟩ := CaseRun.exists_of_find?_eq_some found
      obtain ⟨source, target⟩ := mapped run listed
      rw [member, isCharacter_ofNat (CaseRun.isValidChar_partner target covered),
        eq_comm, CodePoint.isCharacter_iff]
      exact CaseRun.isValidChar_of_listsCharacters source covered point.inRange
    · exact otherwise other member

end Mapped

theorem isCharacter_of_mem_upperChar {point other : CodePoint}
    (member : other ∈ upperChar point) : other.isCharacter = point.isCharacter := by
  refine isCharacter_of_mem_mapCase upperTables_lead ?_ other member
  simp

theorem isCharacter_of_mem_lowerChar {point other : CodePoint}
    (member : other ∈ lowerChar point) : other.isCharacter = point.isCharacter := by
  refine isCharacter_of_mem_mapCase lowerTables_lead ?_ other member
  simp

theorem isCharacter_of_mem_lowerInContext {casedBefore : Bool} {later : List CodePoint}
    {point other : CodePoint}
    (member : other ∈ lowerInContext casedBefore point later) :
    other.isCharacter = point.isCharacter := by
  unfold lowerInContext at member
  split at member
  · rename_i sigma
    rw [sigma, capitalSigma, CodePoint.isCharacter_ofChar]
    split at member <;> rw [List.mem_singleton] at member <;> subst member <;>
      exact CodePoint.isCharacter_ofChar _
  · exact isCharacter_of_mem_lowerChar member

theorem all_isCharacter_of_ne_nil {points : List CodePoint} {answer : Bool}
    (nonempty : points ≠ []) (alike : ∀ other ∈ points, other.isCharacter = answer) :
    points.all CodePoint.isCharacter = answer := by
  cases points with
  | nil => exact absurd rfl nonempty
  | cons first later =>
      have own := alike first List.mem_cons_self
      cases answer with
      | true => exact List.all_eq_true.mpr alike
      | false => rw [List.all_cons, own, Bool.false_and]

theorem all_isCharacter_lowerFrom (casedBefore : Bool) (points : List CodePoint) :
    (lowerFrom casedBefore points).all CodePoint.isCharacter =
      points.all CodePoint.isCharacter := by
  induction points generalizing casedBefore with
  | nil => rfl
  | cons point later inductionHypothesis =>
      rw [lowerFrom, List.all_append, List.all_cons, inductionHypothesis]
      congr 1
      refine all_isCharacter_of_ne_nil ?_ fun other member =>
        isCharacter_of_mem_lowerInContext member
      unfold lowerInContext
      split
      · split <;> simp
      · exact lowerChar_ne_nil point

theorem isEncodable_lower (text : Text) :
    (lower text).isEncodable = text.isEncodable :=
  all_isCharacter_lowerFrom false text.toList

end Folio.Text
