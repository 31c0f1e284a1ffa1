import Folio.Identifier
import Folio.Proofs.Text.Capital
import Folio.Proofs.Text.Encodable

/-!
# The shape of identifiers

The identifier of a field has no separators and begins with a capital.  Between
identifiers of this shape the wire form decides, but for those that look alike.  An
identifier and its wire form can be encoded exactly if the name of the field can.
-/

namespace Folio.Identifier

structure IsProper (identifier : Text) : Prop where
  nonempty : identifier ≠ ""
  unseparated : separator ∉ identifier.toList
  capital : ∀ first ∈ identifier.toList.head?, Text.IsCapital first

/-- The identifiers differ, but only in a beginning that has one lowercase
form. -/
def LookAlike (first second : Text) : Prop :=
  Text.LookAlike first.toList second.toList

/-! ## Capitalized names -/

theorem separator_not_mem_capitalizeFrom (atStart : Bool) (name : List CodePoint) :
    separator ∉ capitalizeFrom atStart name := by
  induction name generalizing atStart with
  | nil => simp [capitalizeFrom]
  | cons character later inductionHypothesis =>
      by_cases separates : character = separator
      · rw [separates, capitalizeFrom_separator]
        exact inductionHypothesis true
      · rw [capitalizeFrom, if_neg separates, List.mem_append, not_or]
        refine ⟨?_, inductionHypothesis false⟩
        cases atStart with
        | true => exact Text.underscore_not_mem_upperChar separates
        | false => simpa using Ne.symm separates

theorem isCapital_head?_capitalizeFrom (name : List CodePoint) :
    ∀ first ∈ (capitalizeFrom true name).head?, Text.IsCapital first := by
  induction name with
  | nil => simp [capitalizeFrom]
  | cons character later inductionHypothesis =>
      by_cases separates : character = separator
      · rw [separates, capitalizeFrom_separator]
        exact inductionHypothesis
      · obtain ⟨capital, others, isCapital, form⟩ :=
          Text.exists_upperChar_eq_cons character
        rw [capitalizeFrom, if_neg separates, if_pos rfl, form]
        intro first opening
        rw [List.cons_append, List.head?_cons, Option.mem_some_iff] at opening
        exact opening ▸ isCapital

theorem capitalize_isProper {name : Text} (nonempty : capitalize name ≠ "") :
    IsProper (capitalize name) where
  nonempty := nonempty
  unseparated := by
    rw [capitalize, Text.toList_ofList]
    exact separator_not_mem_capitalizeFrom true name.toList
  capital := by
    rw [capitalize, Text.toList_ofList]
    exact isCapital_head?_capitalizeFrom name.toList

theorem capitalize_createdAtField : capitalize createdAtField = createdAt := by
  decide +kernel

theorem createdAt_isProper : IsProper createdAt := by
  rw [← capitalize_createdAtField]
  apply capitalize_isProper
  rw [capitalize_createdAtField]
  decide

/-! ## Wire forms -/

private theorem camelizeChars_append {beginning : List CodePoint}
    (nonempty : beginning ≠ []) (later : List CodePoint) :
    camelizeChars (beginning ++ later) = camelizeChars beginning ++ later := by
  cases beginning with
  | nil => exact absurd rfl nonempty
  | cons first others => simp [camelizeChars]

private theorem camelizeChars_lookAlikes :
    ∀ pair ∈ Text.lookAlikes, pair.1 ≠ [] ∧ pair.2 ≠ [] ∧ pair.1 ≠ pair.2 ∧
      camelizeChars pair.1 = camelizeChars pair.2 := by
  decide +kernel

theorem LookAlike.camelize_eq {first second : Text}
    (alike : LookAlike first second) :
    camelize first = camelize second := by
  obtain ⟨pair, member, later, same⟩ := alike
  obtain ⟨leftNonempty, rightNonempty, -, lowered⟩ :=
    camelizeChars_lookAlikes pair member
  have equal : camelizeChars (pair.1 ++ later) = camelizeChars (pair.2 ++ later) := by
    rw [camelizeChars_append leftNonempty, camelizeChars_append rightNonempty,
      lowered]
  unfold camelize
  rcases same with ⟨left, right⟩ | ⟨left, right⟩
  · rw [left, right, equal]
  · rw [left, right, equal]

theorem IsProper.exists_cons {identifier : Text} (proper : IsProper identifier) :
    ∃ first later, identifier.toList = first :: later ∧ Text.IsCapital first := by
  cases characters : identifier.toList with
  | nil => exact absurd (Text.toList_eq_nil_iff.mp characters) proper.nonempty
  | cons first later =>
      exact ⟨first, later, rfl, proper.capital first (by simp [characters])⟩

/-- Proper identifiers with one wire form are equal or look alike. -/
theorem camelize_eq_iff {first second : Text} (firstProper : IsProper first)
    (secondProper : IsProper second) :
    camelize first = camelize second ↔ first = second ∨ LookAlike first second := by
  constructor
  · intro same
    obtain ⟨capital, left, firstEq, isCapital⟩ := firstProper.exists_cons
    obtain ⟨other, right, secondEq, otherCapital⟩ := secondProper.exists_cons
    have lowered := congrArg Text.toList same
    rw [camelize, camelize, Text.toList_ofList, Text.toList_ofList, firstEq,
      secondEq] at lowered
    rcases Text.eq_or_lookAlike_of_lowerChar_append_eq isCapital otherCapital
      lowered with equal | alike
    · rw [← firstEq, ← secondEq] at equal
      exact .inl (Text.toList_injective equal)
    · rw [← firstEq, ← secondEq] at alike
      exact .inr alike
  · rintro (rfl | alike)
    · rfl
    · exact alike.camelize_eq

/-! ## Encodable names -/

theorem all_isCharacter_capitalizeFrom (atStart : Bool) (name : List CodePoint) :
    (capitalizeFrom atStart name).all CodePoint.isCharacter =
      name.all CodePoint.isCharacter := by
  induction name generalizing atStart with
  | nil => rfl
  | cons point later inductionHypothesis =>
      by_cases separates : point = separator
      · rw [separates, capitalizeFrom_separator, inductionHypothesis, List.all_cons,
          separator, CodePoint.isCharacter_ofChar, Bool.true_and]
      · rw [capitalizeFrom, if_neg separates, List.all_append, List.all_cons,
          inductionHypothesis]
        congr 1
        cases atStart with
        | false => simp
        | true =>
            obtain ⟨first, others, -, form⟩ := Text.exists_upperChar_eq_cons point
            refine Text.all_isCharacter_of_ne_nil ?_ fun other member =>
              Text.isCharacter_of_mem_upperChar member
            rw [if_pos rfl, form]
            simp

@[simp]
theorem isEncodable_capitalize (name : Text) :
    (capitalize name).isEncodable = name.isEncodable :=
  all_isCharacter_capitalizeFrom true name.toList

@[simp]
theorem isEncodable_camelize (identifier : Text) :
    (camelize identifier).isEncodable = identifier.isEncodable := by
  unfold Text.isEncodable camelize
  cases identifier.toList with
  | nil => rfl
  | cons first later =>
      rw [camelizeChars, List.all_append, List.all_cons]
      congr 1
      exact Text.all_isCharacter_of_ne_nil (Text.lowerChar_ne_nil first)
        fun other member => Text.isCharacter_of_mem_lowerChar member

end Folio.Identifier
