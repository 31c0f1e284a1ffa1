import Folio.Proofs.Text.CaseTable

/-!
# Capital characters

A character that is its own uppercase form can begin an identifier.  Every
uppercase form begins with such a character, and all but six of them are the
uppercase form of their lowercase form.  Because of five of these six, two
different beginnings of a text can have one lowercase form: they look alike.
-/

namespace Folio.Text

def IsCapital (character : CodePoint) : Prop :=
  upperChar character = [character]

def lookAlikes : List (List CodePoint × List CodePoint) :=
  [(['K'], ['\u212A']), (['\u00C5'], ['\u212B']), (['\u03A9'], ['\u2126']),
    (['\u0398'], ['\u03F4']), (['I', '\u0307'], ['\u0130'])]

/-- The texts differ in one of the beginnings that look alike, and in nothing
else. -/
def LookAlike (first second : List CodePoint) : Prop :=
  ∃ pair ∈ lookAlikes, ∃ later,
    (first = pair.1 ++ later ∧ second = pair.2 ++ later) ∨
      (first = pair.2 ++ later ∧ second = pair.1 ++ later)

theorem LookAlike.symm {first second : List CodePoint}
    (alike : LookAlike first second) :
    LookAlike second first := by
  obtain ⟨pair, member, later, ⟨left, right⟩ | ⟨left, right⟩⟩ := alike
  · exact ⟨pair, member, later, .inr ⟨right, left⟩⟩
  · exact ⟨pair, member, later, .inl ⟨right, left⟩⟩

/-! ## Uppercase forms -/

private theorem code_ofNat {code : Nat} (valid : code.isValidChar) :
    (CodePoint.ofNat code).code = code :=
  CodePoint.code_ofNat (CodePoint.inRange_of_isValidChar valid)

private theorem upperChar_of_unlisted {character : CodePoint}
    (unlisted : listsUpper character.code = false) :
    upperChar character = [character] := by
  obtain ⟨unexpanded, unfound⟩ := listsUpper_eq_false_iff.mp unlisted
  simp [upperChar, mapCase, unexpanded, unfound]

/-- The uppercase form of a listed character begins with an unlisted one. -/
private theorem upperChar_of_listed {character : CodePoint}
    (listed : listsUpper character.code = true) :
    ∃ code later, code.isValidChar ∧ listsUpper code = false ∧
      upperChar character = CodePoint.ofNat code :: later := by
  cases expansion : findExpansion? character.code upperExpansions with
  | some codes =>
      obtain ⟨code, later, rfl, valid, unlisted⟩ :=
        exists_cons_of_findExpansion? expansion
      refine ⟨code, later.map CodePoint.ofNat, valid, unlisted, ?_⟩
      simp [upperChar, mapCase, expansion]
  | none =>
      cases found : CaseRun.find? character.code upperRuns with
      | some code =>
          obtain ⟨valid, unlisted⟩ := listsUpper_of_find? found
          refine ⟨code, [], valid, unlisted, ?_⟩
          simp [upperChar, mapCase, expansion, found]
      | none => simp [listsUpper, expansion, found] at listed

theorem isCapital_iff_listsUpper {character : CodePoint} :
    IsCapital character ↔ listsUpper character.code = false := by
  constructor
  · intro capital
    cases listed : listsUpper character.code with
    | false => rfl
    | true =>
        obtain ⟨code, later, valid, unlisted, form⟩ := upperChar_of_listed listed
        rw [capital] at form
        cases form
        rw [code_ofNat valid, unlisted] at listed
        cases listed
  · exact upperChar_of_unlisted

theorem exists_upperChar_eq_cons (character : CodePoint) :
    ∃ first later, IsCapital first ∧ upperChar character = first :: later := by
  cases listed : listsUpper character.code with
  | false =>
      exact ⟨character, [], isCapital_iff_listsUpper.mpr listed,
        upperChar_of_unlisted listed⟩
  | true =>
      obtain ⟨code, later, valid, unlisted, form⟩ := upperChar_of_listed listed
      refine ⟨CodePoint.ofNat code, later, isCapital_iff_listsUpper.mpr ?_, form⟩
      rw [code_ofNat valid]
      exact unlisted

private theorem ofNat_ne_underscore {code : Nat} (different : code ≠ 0x5F) :
    CodePoint.ofNat code ≠ '_' := by
  intro same
  have codes := congrArg CodePoint.code same
  by_cases inRange : code < 0x110000
  · rw [CodePoint.code_ofNat inRange] at codes
    exact different codes
  · rw [CodePoint.ofNat, dif_neg inRange] at codes
    cases codes

theorem underscore_not_mem_upperChar {character : CodePoint}
    (different : character ≠ '_') :
    ('_' : CodePoint) ∉ upperChar character := by
  unfold upperChar mapCase
  split
  · rename_i codes expansion
    intro member
    obtain ⟨code, codeMember, same⟩ := List.mem_map.mp member
    refine ofNat_ne_underscore ?_ same
    rintro rfl
    exact underscore_not_mem_of_findExpansion? expansion codeMember
  · split
    · rename_i code found
      intro member
      exact ofNat_ne_underscore (ne_underscore_of_find? found)
        (List.mem_singleton.mp member).symm
    · intro member
      exact different (List.mem_singleton.mp member).symm

/-! ## Lowercase forms -/

private theorem lowerExpansion_eq {code : Nat} {target : List Nat}
    (found : findExpansion? code lowerExpansions = some target) :
    code = 0x0130 ∧ target = [0x69, 0x0307] := by
  have member := mem_of_findExpansion?_eq_some found
  simpa [lowerExpansions] using member

theorem lowerChar_ne_nil (character : CodePoint) : lowerChar character ≠ [] := by
  unfold lowerChar mapCase
  split
  · rename_i codes expansion
    rw [(lowerExpansion_eq expansion).2]
    simp
  · split <;> simp

/-- A capital is the uppercase form of its lowercase form, unless it is one of
the stranded ones. -/
theorem exists_lowerChar_of_isCapital {character : CodePoint}
    (capital : IsCapital character) (plain : character.code ∉ strandedCodes) :
    ∃ small, lowerChar character = [small] ∧ upperChar small = [character] := by
  cases expansion : findExpansion? character.code lowerExpansions with
  | some codes =>
      have dotted := (lowerExpansion_eq expansion).1
      rw [dotted] at plain
      exact absurd (by decide) plain
  | none =>
      cases found : CaseRun.find? character.code lowerRuns with
      | none =>
          refine ⟨character, ?_, capital⟩
          simp [lowerChar, mapCase, expansion, found]
      | some code =>
          rw [isCapital_iff_listsUpper] at capital
          obtain ⟨valid, back⟩ :=
            find?_upperRuns_of_find?_lowerRuns found capital plain
          refine ⟨CodePoint.ofNat code, ?_, ?_⟩
          · simp [lowerChar, mapCase, expansion, found]
          · simp [upperChar, mapCase, code_ofNat valid, back,
              findExpansion?_of_find? back]

/-- The stranded capitals, each with its lowercase form and with the uppercase form
of the first character of that. -/
private def strandedForms : List (CodePoint × List CodePoint × List CodePoint) :=
  [('\u0130', ['i', '\u0307'], ['I']), ('\u03F4', ['\u03B8'], ['\u0398']),
    ('\u1E9E', ['\u00DF'], ['S', 'S']), ('\u2126', ['\u03C9'], ['\u03A9']),
    ('\u212A', ['k'], ['K']), ('\u212B', ['\u00E5'], ['\u00C5'])]

private theorem strandedForms_eq :
    (strandedCodes.map fun code =>
      (CodePoint.ofNat code, lowerChar (CodePoint.ofNat code),
        upperChar ((lowerChar (CodePoint.ofNat code)).headD ' '))) =
      strandedForms := by
  decide +kernel

private theorem mem_strandedForms {character : CodePoint}
    (stranded : character.code ∈ strandedCodes) :
    (character, lowerChar character,
      upperChar ((lowerChar character).headD ' ')) ∈ strandedForms := by
  rw [← strandedForms_eq]
  refine List.mem_map.mpr ⟨character.code, stranded, ?_⟩
  rw [CodePoint.ofNat_code]

private theorem head?_injOn_strandedForms :
    ∀ form ∈ strandedForms, ∀ other ∈ strandedForms,
      form.2.1.head? = other.2.1.head? → form.1 = other.1 := by
  decide

private theorem mem_lookAlikes_of_mem_strandedForms {character small second : CodePoint}
    {others : List CodePoint}
    (form : (character, small :: others, [second]) ∈ strandedForms) :
    (second :: others, [character]) ∈ lookAlikes := by
  simp only [strandedForms, List.mem_cons, Prod.mk.injEq, List.cons.injEq,
    List.not_mem_nil, or_false, and_true, reduceCtorEq, and_false,
    false_or] at form
  rcases form with ⟨rfl, ⟨-, rfl⟩, rfl⟩ | ⟨rfl, ⟨-, rfl⟩, rfl⟩ |
    ⟨rfl, ⟨-, rfl⟩, rfl⟩ | ⟨rfl, ⟨-, rfl⟩, rfl⟩ | ⟨rfl, ⟨-, rfl⟩, rfl⟩ <;>
    simp [lookAlikes]

private theorem eq_of_stranded {first second : CodePoint} {left right : List CodePoint}
    (firstStranded : first.code ∈ strandedCodes)
    (secondStranded : second.code ∈ strandedCodes)
    (same : lowerChar first ++ left = lowerChar second ++ right) :
    first = second := by
  have heads : (lowerChar first).head? = (lowerChar second).head? := by
    obtain ⟨small, others, own⟩ :=
      List.exists_cons_of_ne_nil (lowerChar_ne_nil first)
    obtain ⟨other, more, otherOwn⟩ :=
      List.exists_cons_of_ne_nil (lowerChar_ne_nil second)
    rw [own, otherOwn, List.cons_append, List.cons_append, List.cons.injEq] at same
    rw [own, otherOwn, same.1, List.head?_cons, List.head?_cons]
  exact head?_injOn_strandedForms _ (mem_strandedForms firstStranded) _
    (mem_strandedForms secondStranded) heads

private theorem lookAlike_of_stranded {first second : CodePoint}
    {left right : List CodePoint} (stranded : first.code ∈ strandedCodes)
    (capital : IsCapital second) (plain : second.code ∉ strandedCodes)
    (same : lowerChar first ++ left = lowerChar second ++ right) :
    LookAlike (first :: left) (second :: right) := by
  obtain ⟨small, lowered, restored⟩ :=
    exists_lowerChar_of_isCapital capital plain
  have form := mem_strandedForms stranded
  rw [lowered] at same
  obtain ⟨head, others, own⟩ :=
    List.exists_cons_of_ne_nil (lowerChar_ne_nil first)
  rw [own, List.cons_append, List.singleton_append, List.cons.injEq] at same
  obtain ⟨rfl, rfl⟩ := same
  rw [own, List.headD_cons, restored] at form
  exact ⟨_, mem_lookAlikes_of_mem_strandedForms form, left, .inr ⟨rfl, rfl⟩⟩

/-- Texts that begin with capitals and have one lowercase form are equal or look
alike. -/
theorem eq_or_lookAlike_of_lowerChar_append_eq {first second : CodePoint}
    {left right : List CodePoint} (firstCapital : IsCapital first)
    (secondCapital : IsCapital second)
    (same : lowerChar first ++ left = lowerChar second ++ right) :
    first :: left = second :: right ∨
      LookAlike (first :: left) (second :: right) := by
  by_cases firstPlain : first.code ∈ strandedCodes
  · by_cases secondPlain : second.code ∈ strandedCodes
    · have equal := eq_of_stranded firstPlain secondPlain same
      rw [equal, List.append_cancel_left_eq] at same
      rw [equal, same]
      exact .inl rfl
    · exact .inr (lookAlike_of_stranded firstPlain secondCapital secondPlain same)
  · by_cases secondPlain : second.code ∈ strandedCodes
    · exact .inr
        (lookAlike_of_stranded secondPlain firstCapital firstPlain same.symm).symm
    · obtain ⟨small, lowered, restored⟩ :=
        exists_lowerChar_of_isCapital firstCapital firstPlain
      obtain ⟨other, otherLowered, otherRestored⟩ :=
        exists_lowerChar_of_isCapital secondCapital secondPlain
      rw [lowered, otherLowered, List.singleton_append, List.singleton_append,
        List.cons.injEq] at same
      obtain ⟨rfl, rfl⟩ := same
      rw [restored, List.cons.injEq] at otherRestored
      rw [otherRestored.1]
      exact .inl rfl

end Folio.Text
