import Folio.JsonSchema.DefinitionKey
import Folio.JsonSchema.Reference

/-!
# What a key looks like

The key of a definition has no slash, so it is the last segment of a reference to
it.  A name that ends in letters gives a key with the same ending.
-/

namespace Folio.JsonSchema

/-- The character stands in a key as it is. -/
def IsPlain (character : CodePoint) : Prop :=
  keyChars character = [character]

instance (character : CodePoint) : Decidable (IsPlain character) :=
  inferInstanceAs (Decidable (keyChars character = [character]))

section Plain

variable {character : CodePoint}

theorem IsPlain.ne_of_not (plain : IsPlain character) (other : CodePoint)
    (special : ¬ IsPlain other) : character ≠ other := by
  rintro rfl
  exact special plain

theorem IsPlain.not_isPartMark (plain : IsPlain character) :
    isPartMark character = false := by
  have opening := plain.ne_of_not '[' (by decide)
  have closing := plain.ne_of_not ']' (by decide)
  have comma := plain.ne_of_not ',' (by decide)
  simp [isPartMark, opening, closing, comma]

theorem flatMap_keyChars {characters : List CodePoint}
    (plain : ∀ character ∈ characters, IsPlain character) :
    characters.flatMap keyChars = characters := by
  induction characters with
  | nil => rfl
  | cons character later inductionHypothesis =>
      rw [List.flatMap_cons, plain character List.mem_cons_self,
        inductionHypothesis fun other present =>
          plain other (List.mem_cons_of_mem _ present)]
      rfl

end Plain

/-! ## Endings -/

section Endings

variable {ending : List CodePoint}

/-- A text without marks at its end ends the last part. -/
theorem nameParts_append (front : List CodePoint)
    (unmarked : ∀ character ∈ ending, isPartMark character = false) :
    ∃ parts part, nameParts (front ++ ending) = parts ++ [part ++ ending] := by
  induction front with
  | nil =>
      refine ⟨[], [], ?_⟩
      induction ending with
      | nil => rfl
      | cons character later inductionHypothesis =>
          have laterParts := inductionHypothesis fun other present =>
            unmarked other (List.mem_cons_of_mem _ present)
          simp only [List.nil_append] at laterParts ⊢
          rw [nameParts, laterParts, unmarked character List.mem_cons_self]
          rfl
  | cons character later inductionHypothesis =>
      obtain ⟨parts, part, found⟩ := inductionHypothesis
      rw [List.cons_append, nameParts, found]
      split
      · exact ⟨[] :: [character] :: parts, part, rfl⟩
      · cases parts with
        | nil => exact ⟨[], character :: part, rfl⟩
        | cons first others => exact ⟨(character :: first) :: others, part, rfl⟩

theorem splitOn_append (separator : CodePoint) (front : List CodePoint)
    (unseparated : separator ∉ ending) :
    ∃ parts part, Text.splitOn separator (front ++ ending) =
      parts ++ [part ++ ending] := by
  induction front with
  | nil =>
      refine ⟨[], [], ?_⟩
      induction ending with
      | nil => rfl
      | cons character later inductionHypothesis =>
          have laterParts := inductionHypothesis fun present =>
            unseparated (List.mem_cons_of_mem _ present)
          have different : character ≠ separator := by
            rintro rfl
            exact unseparated List.mem_cons_self
          simp only [List.nil_append] at laterParts ⊢
          rw [Text.splitOn, laterParts, if_neg different]
  | cons character later inductionHypothesis =>
      obtain ⟨parts, part, found⟩ := inductionHypothesis
      rw [List.cons_append, Text.splitOn, found]
      split
      · exact ⟨[] :: parts, part, rfl⟩
      · cases parts with
        | nil => exact ⟨[], character :: part, rfl⟩
        | cons first others => exact ⟨(character :: first) :: others, part, rfl⟩

theorem beforeLastColon_append (part : List CodePoint) :
    beforeLastColon (part ++ [.ofChar ':']) = part := by
  simp [beforeLastColon]

theorem lastSegments_append (segments : List (List CodePoint)) (last : List CodePoint) :
    ∃ kept, lastSegments (segments ++ [last]) = kept ++ [last] := by
  induction segments with
  | nil => exact ⟨[], rfl⟩
  | cons segment later inductionHypothesis =>
      obtain ⟨kept, found⟩ := inductionHypothesis
      cases rest : later ++ [last] with
      | nil => simp at rest
      | cons next others =>
          rw [rest] at found
          rw [List.cons_append, rest, lastSegments, found]
          split
          · exact ⟨kept, rfl⟩
          · exact ⟨segment :: kept, rfl⟩

theorem joinWith_append (separator : CodePoint) (parts : List (List CodePoint))
    (last : List CodePoint) :
    ∃ front, Text.joinWith separator (parts ++ [last]) = front ++ last := by
  induction parts with
  | nil => exact ⟨[], rfl⟩
  | cons part later inductionHypothesis =>
      obtain ⟨front, found⟩ := inductionHypothesis
      cases rest : later ++ [last] with
      | nil => simp at rest
      | cons next others =>
          rw [rest] at found
          rw [List.cons_append, rest, Text.joinWith, found]
          · exact ⟨part ++ separator :: front, by simp⟩
          · exact List.cons_ne_nil next others

theorem withoutPath_append (front : List CodePoint)
    (unseparated : CodePoint.ofChar '.' ∉ ending) :
    ∃ kept, withoutPath (front ++ ending) = kept ++ ending := by
  obtain ⟨parts, part, split⟩ := splitOn_append '.' front unseparated
  obtain ⟨kept, segments⟩ := lastSegments_append parts (part ++ ending)
  obtain ⟨joined, found⟩ := joinWith_append '.' kept (part ++ ending)
  refine ⟨joined ++ part, ?_⟩
  rw [withoutPath, split, segments, found, List.append_assoc]

/-- The key of a name ends as the name does. -/
theorem definitionKey_append (home : Text) {name : Text} {front : List CodePoint}
    (ends : name.toList = front ++ ending)
    (plain : ∀ character ∈ ending, IsPlain character) :
    ∃ kept, (definitionKey home name).toList = kept ++ ending := by
  have path : (home ++ "." ++ name ++ ":").toList =
      (home.toList ++ .ofChar '.' :: front) ++ (ending ++ [.ofChar ':']) := by
    simp [ends, Text.toList_ofString]
  have unmarked : ∀ character ∈ ending ++ [.ofChar ':'], isPartMark character = false := by
    intro character present
    rcases List.mem_append.mp present with inEnding | colon
    · exact (plain character inEnding).not_isPartMark
    · rw [List.mem_singleton.mp colon]
      rfl
  have unseparated : CodePoint.ofChar '.' ∉ ending :=
    fun present => absurd (plain '.' present) (by decide)
  obtain ⟨parts, part, found⟩ :=
    nameParts_append (home.toList ++ .ofChar '.' :: front) unmarked
  obtain ⟨kept, shortened⟩ := withoutPath_append part unseparated
  unfold definitionKey
  dsimp only
  rw [path, found, List.flatMap_append, List.flatMap_singleton,
    ← List.append_assoc part, beforeLastColon_append, shortened, List.flatMap_append,
    flatMap_keyChars plain, ← List.append_assoc]
  exact ⟨_, rfl⟩

end Endings

/-! ## References -/

theorem slash_notMem_keyChars (character : CodePoint) :
    CodePoint.ofChar '/' ∉ keyChars character := by
  unfold keyChars
  split
  · rename_i allowed
    rw [List.mem_singleton]
    rintro rfl
    exact absurd allowed (by decide)
  · split <;> decide

theorem slash_notMem_definitionKey (home name : Text) :
    CodePoint.ofChar '/' ∉ (definitionKey home name).toList := by
  intro present
  rw [definitionKey, Text.toList_ofList] at present
  simp only [List.mem_flatMap] at present
  obtain ⟨part, -, character, -, written⟩ := present
  exact slash_notMem_keyChars character written

/-- The last segment of a reference to a definition is its key. -/
theorem lastSegment_reference {key : Text} (unslashed : CodePoint.ofChar '/' ∉ key.toList) :
    lastSegment (referenceHead ++ key) = key := by
  have unstopped : ∀ character ∈ key.toList.reverse,
      (character != CodePoint.ofChar '/') = true := by
    intro character present
    rw [bne_iff_ne]
    rintro rfl
    exact unslashed (List.mem_reverse.mp present)
  have stopped : referenceHead.toList.reverse.takeWhile (· != CodePoint.ofChar '/') = [] := by
    decide
  rw [lastSegment, Text.toList_append, List.reverse_append,
    List.takeWhile_append_of_pos unstopped, stopped, List.append_nil,
    List.reverse_reverse, Text.ofList_toList]

end Folio.JsonSchema
