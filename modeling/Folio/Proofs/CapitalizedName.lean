import Folio.Proofs.Registry
import Folio.Text.Split

/-!
# Capitalized names

The identifier of a name is made of the words of the name, each with a capital first
letter.  Separators only tell words apart: how many there are between two words, before
the first or after the last makes no difference.  An identifier is its own identifier,
so that it can be compared with those of the fields of a schema as it stands.
-/

namespace Folio.Identifier

/-- The words of a name: its parts between separators, without the empty ones. -/
def words (name : List CodePoint) : List (List CodePoint) :=
  (Text.splitOn separator name).filter fun word => !word.isEmpty

def capitalizeWord : List CodePoint → List CodePoint
  | [] => []
  | first :: later => Text.upperChar first ++ later

def separators (count : Nat) : Text :=
  .ofList (List.replicate count separator)

/-- What holds of a name and its identifier. -/
structure Identifies (name identifier : Text) : Prop where
  /-- The identifier is spelled by the words of the name. -/
  spelled : identifier.toList = (words name.toList).flatMap capitalizeWord
  unseparated : separator ∉ identifier.toList
  /-- Nothing is left of a name exactly if it has no letters but separators. -/
  empty_iff : identifier = "" ↔ ∀ character ∈ name.toList, character = separator
  /-- The identifier is its own identifier. -/
  fixed : capitalize identifier = identifier
  /-- What follows a separator is capitalized by itself. -/
  joined : ∀ other, capitalize (name ++ "_" ++ other) = identifier ++ capitalize other
  /-- Separators around a name make no difference. -/
  surrounded : ∀ before after,
    capitalize (separators before ++ name ++ separators after) = identifier
  /-- Several separators between two names do what one does. -/
  repeated : ∀ more other,
    capitalize (name ++ separators (more + 1) ++ other) = capitalize (name ++ "_" ++ other)

/-! ## Separators -/

/-- A separator keeps what is before and what is after it apart. -/
theorem capitalizeFrom_append_separator (atStart : Bool) (first second : List CodePoint) :
    capitalizeFrom atStart (first ++ separator :: second) =
      capitalizeFrom atStart first ++ capitalizeFrom true second := by
  induction first generalizing atStart with
  | nil => simp [capitalizeFrom]
  | cons character later inductionHypothesis =>
      by_cases separates : character = separator
      · rw [separates, List.cons_append, capitalizeFrom_separator,
          capitalizeFrom_separator, inductionHypothesis]
      · rw [List.cons_append, capitalizeFrom, if_neg separates, inductionHypothesis,
          capitalizeFrom, if_neg separates, List.append_assoc]

theorem capitalizeFrom_eq_nil_iff {atStart : Bool} {name : List CodePoint} :
    capitalizeFrom atStart name = [] ↔ ∀ character ∈ name, character = separator := by
  induction name generalizing atStart with
  | nil => simp [capitalizeFrom]
  | cons character later inductionHypothesis =>
      by_cases separates : character = separator
      · rw [separates, capitalizeFrom_separator, inductionHypothesis]
        simp
      · obtain ⟨first, others, -, form⟩ := Text.exists_upperChar_eq_cons character
        have written : (if atStart then Text.upperChar character else [character]) ≠ [] := by
          split
          · simp [form]
          · simp
        simp [capitalizeFrom, separates, written]

theorem capitalizeFrom_replicate_append (count : Nat) (later : List CodePoint) :
    capitalizeFrom true (List.replicate count separator ++ later) =
      capitalizeFrom true later := by
  induction count with
  | zero => rfl
  | succ more inductionHypothesis =>
      rw [List.replicate_succ, List.cons_append, capitalizeFrom_separator,
        inductionHypothesis]

/-- Separators keep what is before and what is after them apart, and leave nothing of
their own. -/
theorem capitalizeFrom_append_replicate (atStart : Bool) (first second : List CodePoint)
    (more : Nat) :
    capitalizeFrom atStart (first ++ List.replicate (more + 1) separator ++ second) =
      capitalizeFrom atStart first ++ capitalizeFrom true second := by
  rw [List.replicate_succ, List.append_assoc, List.cons_append,
    capitalizeFrom_append_separator, capitalizeFrom_replicate_append]

/-! ## Words -/

theorem flatMap_words (name : List CodePoint) :
    (words name).flatMap capitalizeWord =
      (Text.splitOn separator name).flatMap capitalizeWord := by
  unfold words
  induction Text.splitOn separator name with
  | nil => rfl
  | cons part parts inductionHypothesis =>
      cases part with
      | nil => simpa [capitalizeWord] using inductionHypothesis
      | cons first later => simpa using inductionHypothesis

/-- Inside a word, its rest is kept up to the next separator. -/
theorem capitalizeFrom_eq_flatMap (name : List CodePoint) :
    capitalizeFrom true name = (Text.splitOn separator name).flatMap capitalizeWord ∧
      ∀ part parts, Text.splitOn separator name = part :: parts →
        capitalizeFrom false name = part ++ parts.flatMap capitalizeWord := by
  induction name with
  | nil => simp [Text.splitOn, capitalizeFrom, capitalizeWord]
  | cons character later inductionHypothesis =>
      obtain ⟨atStart, within⟩ := inductionHypothesis
      by_cases separates : character = separator
      · subst separates
        simp [Text.splitOn, capitalizeWord, atStart]
      · obtain ⟨part, parts, split⟩ :=
          List.exists_cons_of_ne_nil (Text.splitOn_ne_nil separator later)
        simp [Text.splitOn, capitalizeFrom, separates, split, within part parts split,
          capitalizeWord]

theorem toList_capitalize (name : Text) :
    (capitalize name).toList = (words name.toList).flatMap capitalizeWord := by
  rw [capitalize, Text.toList_ofList, (capitalizeFrom_eq_flatMap name.toList).1,
    flatMap_words]

/-! ## Identifiers of identifiers -/

theorem capitalizeFrom_of_unseparated {name : List CodePoint} (unseparated : separator ∉ name) :
    capitalizeFrom false name = name := by
  induction name with
  | nil => rfl
  | cons character later inductionHypothesis =>
      rw [List.mem_cons, not_or] at unseparated
      rw [capitalizeFrom, if_neg (Ne.symm unseparated.1),
        inductionHypothesis unseparated.2]
      rfl

/-- A proper identifier begins with a capital and has nothing to be left out. -/
theorem IsProper.capitalize_eq {identifier : Text} (proper : IsProper identifier) :
    capitalize identifier = identifier := by
  obtain ⟨first, later, characters, capital⟩ := proper.exists_cons
  have unseparated := proper.unseparated
  rw [characters, List.mem_cons, not_or] at unseparated
  rw [capitalize, characters, capitalizeFrom, if_neg (Ne.symm unseparated.1), if_pos rfl,
    capital, capitalizeFrom_of_unseparated unseparated.2, List.singleton_append,
    ← characters, Text.ofList_toList]

theorem capitalize_capitalize (name : Text) :
    capitalize (capitalize name) = capitalize name := by
  by_cases empty : capitalize name = ""
  · rw [empty]
    rfl
  · exact (capitalize_isProper empty).capitalize_eq

theorem capitalize_eq_empty_iff {name : Text} :
    capitalize name = "" ↔ ∀ character ∈ name.toList, character = separator := by
  rw [capitalize, ← Text.toList_eq_nil_iff, Text.toList_ofList,
    capitalizeFrom_eq_nil_iff]

theorem capitalize_append_separators (first second : Text) (more : Nat) :
    capitalize (first ++ separators (more + 1) ++ second) =
      capitalize first ++ capitalize second := by
  simp only [capitalize, separators, Text.toList_append, capitalizeFrom_append_replicate]
  rfl

theorem capitalize_surrounded (name : Text) (before after : Nat) :
    capitalize (separators before ++ name ++ separators after) = capitalize name := by
  simp only [capitalize, separators, Text.toList_append, List.append_assoc,
    capitalizeFrom_replicate_append]
  cases after with
  | zero => simp
  | succ more =>
      have kept := capitalizeFrom_append_replicate true name.toList [] more
      rw [List.append_nil] at kept
      rw [kept]
      simp [capitalizeFrom]

theorem capitalize_identifies (name : Text) : Identifies name (capitalize name) where
  spelled := toList_capitalize name
  unseparated := by
    rw [capitalize, Text.toList_ofList]
    exact separator_not_mem_capitalizeFrom true name.toList
  empty_iff := capitalize_eq_empty_iff
  fixed := capitalize_capitalize name
  joined := fun other => capitalize_append_separators name other 0
  surrounded := capitalize_surrounded name
  repeated := by
    intro more other
    rw [capitalize_append_separators]
    exact (capitalize_append_separators name other 0).symm

end Folio.Identifier

namespace Folio

/-! ## Identifiers of a contract -/

theorem FieldSet.fixed_of_resolve {schema : EntitySchema} {fieldSet : FieldSet}
    (resolved : schema.resolve = .ok fieldSet) :
    ∀ identifier ∈ fieldSet.fields,
      identifier ≠ "" ∧ Identifier.capitalize identifier = identifier := by
  intro identifier member
  have proper := FieldSet.isProper_of_resolve resolved identifier member
  exact ⟨proper.nonempty, proper.capitalize_eq⟩

/-- A member is compared with fields as it stands: what is found is what has the same
identifier as the identifier of the member. -/
structure Contract.ComparesAsIs (contract : Contract) : Prop where
  fixed : ∀ member ∈ contract.orders.members,
    member.identifier ≠ "" ∧ Identifier.capitalize member.identifier = member.identifier
  /-- Behind a member stands the first orderable field with its identifier, or else the
  creation time. -/
  columned : ∀ member ∈ contract.orders.members,
    contract.columnFor member.identifier =
      .ok (((contract.schema.orderableFields.find? fun field =>
        Identifier.capitalize field.name == Identifier.capitalize member.identifier).map
          (·.name)).getD Identifier.createdAtField)

theorem Contract.IsCoherent.comparesAsIs {contract : Contract}
    (coherent : contract.IsCoherent) : contract.ComparesAsIs := by
  have fixed : ∀ member ∈ contract.orders.members, member.identifier ≠ "" ∧
      Identifier.capitalize member.identifier = member.identifier := by
    intro member present
    obtain ⟨identifier, identified, rfl⟩ := coherent.exists_identifier_of_mem present
    exact FieldSet.fixed_of_resolve coherent.resolves identifier identified
  constructor
  case fixed => exact fixed
  case columned =>
    intro member present
    obtain ⟨column, found, -⟩ := coherent.exists_columnFor present
    rw [(fixed member present).2]
    rw [columnFor] at found ⊢
    split at found
    · rename_i field first
      simp [first]
    · rename_i unfound
      rw [unfound]
      split at found
      · rename_i created
        simp [created]
      · cases found

/-- A name and its identifier go together by the words of the name, and the identifiers
of a schema are compared with those of its fields as they stand. -/
theorem names_identified_and_compared (name : Text) :
    Identifier.Identifies name (Identifier.capitalize name) ∧
      (∀ (schema : EntitySchema) (fieldSet : FieldSet), schema.resolve = .ok fieldSet →
        ∀ identifier ∈ fieldSet.fields,
          identifier ≠ "" ∧ Identifier.capitalize identifier = identifier) ∧
      ∀ (registry : Registry) (shared : SharedSettings) (schema : EntitySchema)
        (response? : Option EntityModel) (contract : Contract),
        (registry.register shared schema response?).outcome = .ok contract →
          contract.ComparesAsIs := by
  refine ⟨Identifier.capitalize_identifies name, ?_, ?_⟩
  · intro schema fieldSet resolved
    exact FieldSet.fixed_of_resolve resolved
  · intro registry shared schema response? contract registered
    obtain ⟨-, built⟩ := Registry.register_outcome_eq_ok_iff.mp registered
    exact (Registry.builtUnder_coherent built).1.comparesAsIs

/-- A post whose fields are spelled with more separators than they need. -/
def postSchema : EntitySchema where
  name := "Post"
  fields := [.make "__published__at_" true true, .make "created_at" true false]
  name_nonempty := by decide
  names_nodup := by decide
  one_default := by decide

/-- The post is ordered by its field, whatever separators the name of that has. -/
theorem postSchema_compared :
    Identifier.Identifies "__published__at_" "PublishedAt" ∧
      (∃ fieldSet, postSchema.resolve = .ok fieldSet ∧ ∀ identifier ∈ fieldSet.fields,
        identifier ≠ "" ∧ Identifier.capitalize identifier = identifier) ∧
      ∃ contract,
        ((Registry.empty (some .standard)).register .initial postSchema none).outcome =
            .ok contract ∧
          contract.columnFor "PublishedAt" = .ok "__published__at_" ∧
          contract.ComparesAsIs := by
  have capitalized : Identifier.capitalize "__published__at_" = "PublishedAt" := by
    decide +kernel
  obtain ⟨identified, resolved, compared⟩ :=
    names_identified_and_compared "__published__at_"
  obtain ⟨contract, registered⟩ : ∃ contract,
      ((Registry.empty (some .standard)).register .initial postSchema none).outcome =
        .ok contract := by
    apply Contract.exists_of_isOk
    decide +kernel
  obtain ⟨-, built⟩ := Registry.register_outcome_eq_ok_iff.mp registered
  obtain ⟨coherent, sameSchema, -⟩ := Registry.builtUnder_coherent built
  have fieldSetResolved : postSchema.resolve = .ok contract.fieldSet := by
    rw [← sameSchema]
    exact coherent.resolves
  have column : contract.columnFor "PublishedAt" = .ok "__published__at_" := by
    have found : postSchema.orderableFields.find?
        (·.identifier == Text.ofString "PublishedAt") =
          some (.make "__published__at_" true true) := by
      decide +kernel
    exact Contract.columnFor_of_find? (sameSchema ▸ found)
  rw [capitalized] at identified
  exact ⟨identified, ⟨contract.fieldSet, fieldSetResolved,
    resolved postSchema contract.fieldSet fieldSetResolved⟩, contract, registered, column,
    compared _ _ _ _ contract registered⟩

end Folio
