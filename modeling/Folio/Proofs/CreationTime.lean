import Folio.Proofs.Registry

/-!
# The column of the creation time

Fields are folded into the creation time whatever the case of their identifiers, but
its member leads back only to a field with the very same identifier.  Without such a
field it leads to a column of its own, which no orderable field is named by.
-/

namespace Folio

theorem FieldDescriptor.isFolded_of_createdAt {field : FieldDescriptor}
    (same : field.identifier = Identifier.createdAt) : field.isFolded = true := by
  rw [isFolded, same]
  exact Identifier.spellsCreatedAt_createdAt

namespace Contract

variable {contract : Contract}

/-- Where the creation time of a contract leads. -/
structure LeadsBack (contract : Contract) : Prop where
  /-- The creation time is a member under its own identifier. -/
  member : ∃ member ∈ contract.orders.members,
    contract.orders.member? Identifier.createdAt = some member ∧
      member.identifier = Identifier.createdAt
  /-- It leads to the first orderable field that has this identifier, which is a
  folded one. -/
  restored : ∀ field,
    contract.schema.orderableFields.find? (·.identifier == Identifier.createdAt) =
        some field →
      field.isFolded = true ∧ contract.columnFor Identifier.createdAt = .ok field.name
  /-- Without such a field it leads to a column that belongs to none of them. -/
  literal : (∀ field ∈ contract.schema.orderableFields,
      field.identifier ≠ Identifier.createdAt) →
    contract.columnFor Identifier.createdAt = .ok "created_at" ∧
      Text.ofString "created_at" ∉ contract.schema.orderableFields.map (·.name)
  /-- So a folded field is found behind it exactly if one of them has its identifier
  letter by letter. -/
  folded : (∃ field ∈ contract.schema.orderableFields, field.isFolded = true ∧
      contract.columnFor Identifier.createdAt = .ok field.name) ↔
    ∃ field ∈ contract.schema.orderableFields, field.identifier = Identifier.createdAt

theorem columnFor_createdAt_of_absent
    (absent : ∀ field ∈ contract.schema.orderableFields,
      field.identifier ≠ Identifier.createdAt) :
    contract.columnFor Identifier.createdAt = .ok Identifier.createdAtField := by
  have none : contract.schema.orderableFields.find?
      (·.identifier == Identifier.createdAt) = none := by
    rw [List.find?_eq_none]
    intro field present same
    exact absent field present (by simpa using same)
  rw [columnFor_eq, none]
  exact if_pos rfl

theorem createdAtField_not_mem_of_absent
    (absent : ∀ field ∈ contract.schema.orderableFields,
      field.identifier ≠ Identifier.createdAt) :
    Identifier.createdAtField ∉ contract.schema.orderableFields.map (·.name) := by
  intro named
  obtain ⟨field, present, same⟩ := List.mem_map.mp named
  apply absent field present
  rw [FieldDescriptor.identifier, same]
  exact Identifier.capitalize_createdAtField

namespace IsCoherent

theorem member?_createdAt (coherent : contract.IsCoherent) :
    contract.orders.member? Identifier.createdAt =
      some (.ofIdentifier Identifier.createdAt) := by
  rw [coherent.orders_eq, coherent.fields_eq]
  simp [OrderEnum.member?, OrderEnum.entry?, OrderEnum.ofWire?, OrderEntry.ofIdentifier]

/-- The creation time leads back to a field that has its identifier, and else to the
column of its own. -/
theorem leadsBack (coherent : contract.IsCoherent) : contract.LeadsBack where
  member := by
    have found := coherent.member?_createdAt
    exact ⟨_, OrderEnum.mem_members_of_member? found, found, rfl⟩
  restored := by
    intro field found
    have same : field.identifier = Identifier.createdAt := by
      simpa using List.find?_some found
    exact ⟨FieldDescriptor.isFolded_of_createdAt same, columnFor_of_find? found⟩
  literal := by
    intro absent
    exact ⟨columnFor_createdAt_of_absent absent, createdAtField_not_mem_of_absent absent⟩
  folded := by
    constructor
    · rintro ⟨field, present, -, behind⟩
      by_contra missing
      have absent : ∀ other ∈ contract.schema.orderableFields,
          other.identifier ≠ Identifier.createdAt := by
        intro other otherPresent same
        exact missing ⟨other, otherPresent, same⟩
      rw [columnFor_createdAt_of_absent absent, Except.ok.injEq] at behind
      exact createdAtField_not_mem_of_absent absent
        (behind ▸ List.mem_map_of_mem present)
    · rintro ⟨field, present, same⟩
      obtain ⟨first, found, firstPresent, firstSame⟩ :
          ∃ first, contract.schema.orderableFields.find?
              (·.identifier == field.identifier) = some first ∧
            first ∈ contract.schema.orderableFields ∧
            first.identifier = field.identifier :=
        exists_find?_eq_some present
      rw [same] at found firstSame
      exact ⟨first, firstPresent, FieldDescriptor.isFolded_of_createdAt firstSame,
        columnFor_of_find? found⟩

end IsCoherent

end Contract

namespace Registry

/-- The contract registered for a schema leads from the creation time back to the
field with its identifier, as long as there is one. -/
theorem register_leadsBack {registry : Registry} {shared : SharedSettings}
    {schema : EntitySchema} {response? : Option EntityModel} {contract : Contract}
    (registered : (registry.register shared schema response?).outcome = .ok contract) :
    contract.schema = schema ∧ contract.LeadsBack := by
  obtain ⟨-, built⟩ := register_outcome_eq_ok_iff.mp registered
  obtain ⟨coherent, rfl, -⟩ := builtUnder_coherent built
  exact ⟨rfl, coherent.leadsBack⟩

/-- A visit with two folded fields, of which the second has the identifier of the
creation time. -/
def visitSchema : EntitySchema where
  name := "Visit"
  fields := [.make "CREATED_AT" true false, .make "Created_At" true false]
  name_nonempty := by decide
  names_nodup := by decide
  one_default := by decide

theorem visitSchema_leadsBack :
    ∃ contract,
      ((empty (some .standard)).register .initial visitSchema none).outcome =
          .ok contract ∧
        contract.schema = visitSchema ∧ contract.LeadsBack := by
  have succeeded :
      ((empty (some .standard)).register .initial visitSchema none).outcome.isOk =
        true := by
    decide +kernel
  obtain ⟨contract, registered⟩ := Contract.exists_of_isOk succeeded
  exact ⟨contract, registered, register_leadsBack registered⟩

/-- A log with a folded field whose identifier is written in capitals. -/
def logSchema : EntitySchema where
  name := "Log"
  fields := [.make "CREATED_AT" true false]
  name_nonempty := by decide
  names_nodup := by decide
  one_default := by decide

/-- The creation time of the log leads to a column that the log does not have. -/
theorem logSchema_leads_elsewhere :
    ∃ contract member,
      ((empty (some .standard)).register .initial logSchema none).outcome =
          .ok contract ∧
        (∃ field ∈ contract.schema.orderableFields, field.isFolded = true) ∧
        contract.orders.member? Identifier.createdAt = some member ∧
        contract.columnFor member.identifier = .ok "created_at" ∧
        Text.ofString "created_at" ∉ contract.schema.orderableFields.map (·.name) := by
  have succeeded :
      ((empty (some .standard)).register .initial logSchema none).outcome.isOk =
        true := by
    decide +kernel
  obtain ⟨contract, registered⟩ := Contract.exists_of_isOk succeeded
  obtain ⟨-, built⟩ := register_outcome_eq_ok_iff.mp registered
  obtain ⟨coherent, sameSchema, -⟩ := builtUnder_coherent built
  have absent : ∀ field ∈ contract.schema.orderableFields,
      field.identifier ≠ Identifier.createdAt := by
    rw [sameSchema]
    decide +kernel
  have folded : ∃ field ∈ contract.schema.orderableFields, field.isFolded = true := by
    rw [sameSchema]
    decide +kernel
  obtain ⟨column, unnamed⟩ := coherent.leadsBack.literal absent
  exact ⟨contract, _, registered, folded, coherent.member?_createdAt, column, unnamed⟩

end Registry

end Folio
