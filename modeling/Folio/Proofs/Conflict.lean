import Folio.Proofs.Resolution

/-!
# Conflicts between fields

Fields are looked at in declaration order, and the first one that has no identifier,
or that of an earlier field which is kept, stops the resolution of their schema.
Nothing else does: what is collected always makes a field set.  Fields that are
folded into the creation time are never in conflict, not even with each other.
-/

namespace Folio

namespace FieldDescriptor

variable {before : List FieldDescriptor} {field : FieldDescriptor} {fault : Fault}

/-- What stands against a field that comes after others: it has no identifier, or an
earlier field that is not folded has the same one. -/
inductive Conflicts (before : List FieldDescriptor) (field : FieldDescriptor) :
    Fault → Prop where
  | unnamed (nameless : field.identifier = "") :
      Conflicts before field (.conflict "" field.name none)
  | repeated {previous : FieldDescriptor} (present : previous ∈ before)
      (kept : previous.isFolded = false)
      (same : previous.identifier = field.identifier)
      (named : field.identifier ≠ "") :
      Conflicts before field
        (.conflict field.identifier previous.name (some field.name))

/-- The conflict of the first field that has one, in declaration order: nothing
stands against the fields that are passed over. -/
inductive FirstConflict (fault : Fault) :
    List FieldDescriptor → List FieldDescriptor → Prop where
  | here {before later : List FieldDescriptor} {field : FieldDescriptor} :
      field.Conflicts before fault →
      FirstConflict fault before (field :: later)
  | there {before later : List FieldDescriptor} {field : FieldDescriptor} :
      (∀ other, ¬ field.Conflicts before other) →
      FirstConflict fault (before ++ [field]) later →
      FirstConflict fault before (field :: later)

theorem Conflicts.kind_eq (conflict : field.Conflicts before fault) :
    fault.kind = .conflict := by
  cases conflict <;> rfl

theorem FirstConflict.kind_eq {later : List FieldDescriptor}
    (first : FirstConflict fault before later) : fault.kind = .conflict := by
  induction first with
  | here conflict => exact conflict.kind_eq
  | there _ _ inductionHypothesis => exact inductionHypothesis

end FieldDescriptor

namespace OrderSource

open FieldDescriptor

variable {before later : List FieldDescriptor} {field : FieldDescriptor} {fault : Fault}

theorem ofFields_append (before later : List FieldDescriptor) :
    ofFields (before ++ later) = ofFields before ++ ofFields later := by
  simp [ofFields]

theorem mem_identifiers_ofFields_iff {identifier : Text} :
    identifier ∈ (ofFields before).map (·.identifier) ↔
      ∃ previous ∈ before, previous.isFolded = false ∧
        previous.identifier = identifier := by
  simp [ofFields, and_assoc]

/-- Nothing stands against a field exactly if it has an identifier, and either is
folded or has an identifier that no earlier one has. -/
theorem forall_not_conflicts_iff :
    (∀ other, ¬ field.Conflicts before other) ↔
      field.identifier ≠ "" ∧
        field.identifier ∉ (ofFields before).map (·.identifier) := by
  rw [mem_identifiers_ofFields_iff]
  constructor
  · intro free
    have named : field.identifier ≠ "" := by
      intro nameless
      exact free _ (.unnamed nameless)
    refine ⟨named, ?_⟩
    rintro ⟨previous, present, kept, same⟩
    exact free _ (.repeated present kept same named)
  · rintro ⟨named, fresh⟩ other conflict
    cases conflict with
    | unnamed nameless => exact named nameless
    | @repeated previous present kept same =>
        exact fresh ⟨previous, present, kept, same⟩

/-- A field against which nothing stands keeps the identifiers apart. -/
theorem nodup_ofFields_append
    (distinct : ((ofFields before).map (·.identifier)).Nodup)
    (free : ∀ other, ¬ field.Conflicts before other) :
    ((ofFields (before ++ [field])).map (·.identifier)).Nodup := by
  cases folded : field.isFolded with
  | true => simpa [ofFields, folded] using distinct
  | false =>
      have extended : (ofFields (before ++ [field])).map (·.identifier) =
          (ofFields before).map (·.identifier) ++ [field.identifier] := by
        simp [ofFields, folded]
      rw [extended, List.nodup_middle, List.append_nil, List.nodup_cons]
      exact ⟨(forall_not_conflicts_iff.mp free).2, distinct⟩

theorem collect_of_conflicts
    (distinct : ((ofFields before).map (·.identifier)).Nodup)
    (conflict : field.Conflicts before fault) :
    collect (ofFields before) (field :: later) = .error fault := by
  cases conflict with
  | unnamed nameless => simp [collect, nameless]
  | @repeated previous present kept same named =>
      have own : Identifier.spellsCreatedAt field.identifier = false := by
        rw [← same]
        exact kept
      have source : ofField previous ∈ ofFields before :=
        List.mem_map_of_mem (List.mem_filter.mpr ⟨present, by simp [kept]⟩)
      have found : (ofFields before).find? (·.identifier == field.identifier) =
          some (ofField previous) := by
        rw [← same, ← ofField_identifier]
        exact find?_eq_some_of_nodup distinct source
      simp [collect, named, own, found]

/-- A field against which nothing stands leaves the outcome to the later ones. -/
theorem collect_of_free (free : ∀ other, ¬ field.Conflicts before other) :
    collect (ofFields before) (field :: later) =
      (collect (ofFields (before ++ [field])) later).map (ofFields [field] ++ ·) := by
  obtain ⟨named, fresh⟩ := forall_not_conflicts_iff.mp free
  rw [ofFields_append]
  cases folded : field.isFolded with
  | true =>
      have passed : ofFields [field] = [] := ofFields_cons_of_folded folded
      rw [collect_of_folded named folded, passed, List.append_nil]
      cases collect (ofFields before) later <;> rfl
  | false =>
      have added : ofFields [field] = [ofField field] := ofFields_cons_of_not_folded folded
      have unseen : (ofFields before).find? (·.identifier == field.identifier) = none := by
        rw [List.find?_eq_none]
        intro source present same
        exact fresh (List.mem_map.mpr ⟨source, present, by simpa using same⟩)
      rw [added]
      rw [isFolded] at folded
      simp only [collect, ofField_identifier, named, ↓reduceIte, folded,
        Bool.false_eq_true, unseen]
      cases collect (ofFields before ++ [ofField field]) later <;> rfl

/-- Collecting fails exactly with the first conflict. -/
theorem collect_eq_error_iff
    (distinct : ((ofFields before).map (·.identifier)).Nodup) :
    collect (ofFields before) later = .error fault ↔
      FirstConflict fault before later := by
  induction later generalizing before with
  | nil =>
      constructor
      · intro failed
        cases failed
      · intro first
        cases first
  | cons field later inductionHypothesis =>
      by_cases opposed : ∃ other, field.Conflicts before other
      · obtain ⟨other, conflict⟩ := opposed
        rw [collect_of_conflicts distinct conflict, Except.error.injEq]
        constructor
        · rintro rfl
          exact .here conflict
        · intro first
          cases first with
          | here own =>
              have same : collect (ofFields before) (field :: later) = .error fault :=
                collect_of_conflicts distinct own
              rw [collect_of_conflicts distinct conflict] at same
              exact Except.error.inj same
          | there free => exact absurd conflict (free other)
      · have free : ∀ other, ¬ field.Conflicts before other := by
          simpa using opposed
        have after := inductionHypothesis (nodup_ofFields_append distinct free)
        rw [collect_of_free free]
        constructor
        · intro failed
          refine .there free (after.mp ?_)
          cases outcome : collect (ofFields (before ++ [field])) later with
          | ok sources => simp [outcome, Except.map] at failed
          | error cause => simpa [outcome, Except.map] using failed
        · intro first
          cases first with
          | here conflict => exact absurd conflict (free fault)
          | there _ first => rw [after.mpr first]; rfl

end OrderSource

/-- The rules of a field set keep none back that satisfies them. -/
theorem FieldSet.check_eq_ok_iff {fields : List Text} {default : Text}
    {fieldSet : FieldSet} :
    check fields default = .ok fieldSet ↔
      fieldSet.fields = fields ∧ fieldSet.default = default := by
  constructor
  · intro accepted
    unfold check at accepted
    split at accepted
    · split at accepted
      · split at accepted
        · cases accepted
          exact ⟨rfl, rfl⟩
        · cases accepted
      · cases accepted
    · cases accepted
  · rintro ⟨rfl, rfl⟩
    simp only [check, fieldSet.starts_createdAt, fieldSet.fields_nodup,
      fieldSet.default_mem, ↓reduceDIte]

namespace EntitySchema

open FieldDescriptor

variable {schema : EntitySchema} {fault : Fault}

/-- What resolving a schema comes to. -/
structure Resolves (schema : EntitySchema) : Prop where
  /-- The creation time comes first, then the identifiers of the orderable fields in
  declaration order, except those that spell the creation time. -/
  ordered : ∀ fieldSet, schema.resolve = .ok fieldSet →
    fieldSet.fields =
      Identifier.createdAt ::
        (schema.orderableFields.filter fun field => !field.isFolded).map (·.identifier)
  /-- The tagged field is the default, unless it is folded. -/
  tagged : ∀ fieldSet, schema.resolve = .ok fieldSet →
    ∀ field ∈ schema.fields, field.isDefaultOrder = true → field.isFolded = false →
      fieldSet.default = field.identifier
  /-- Otherwise it is the first identifier after the creation time, or else the
  creation time itself. -/
  untagged : ∀ fieldSet, schema.resolve = .ok fieldSet →
    (∀ field ∈ schema.fields, field.isDefaultOrder = true → field.isFolded = true) →
      fieldSet.default = fieldSet.fields.tail.headD Identifier.createdAt
  /-- What is collected passes the rules of field sets. -/
  valid : ∀ sources, schema.orderSources = .ok sources →
    ∃ fieldSet,
      FieldSet.check (Identifier.createdAt :: sources.map (·.identifier))
          (OrderSource.defaultIdentifier sources) = .ok fieldSet ∧
        schema.resolve = .ok fieldSet
  /-- A schema is refused because of the first field that is in conflict. -/
  refused : ∀ fault, schema.resolve = .error fault ↔
    FirstConflict fault [] schema.orderableFields
  /-- Fields that are not orderable do not count. -/
  concerned : ∀ other : EntitySchema, other.orderableFields = schema.orderableFields →
    other.resolve = schema.resolve

theorem resolve_eq_error_iff :
    schema.resolve = .error fault ↔ FirstConflict fault [] schema.orderableFields := by
  have start : ((OrderSource.ofFields []).map (·.identifier)).Nodup := List.nodup_nil
  rw [← OrderSource.collect_eq_error_iff start]
  change _ ↔ schema.orderSources = .error fault
  cases collected : schema.orderSources with
  | error cause => rw [resolve_of_orderSources collected]; simp
  | ok sources =>
      obtain ⟨fieldSet, resolved, -⟩ := exists_resolve_of_orderSources collected
      simp [resolved]

theorem resolve_eq_of_orderableFields {other : EntitySchema}
    (same : other.orderableFields = schema.orderableFields) :
    other.resolve = schema.resolve := by
  cases outcome : schema.resolve with
  | error fault =>
      rw [resolve_eq_error_iff] at outcome ⊢
      rwa [same]
  | ok fieldSet =>
      rw [resolve_eq_ok_iff] at outcome ⊢
      simpa only [defaultField?, ownFields, same] using outcome

theorem default_of_tagged {fieldSet : FieldSet} {field : FieldDescriptor}
    (resolved : schema.resolve = .ok fieldSet) (present : field ∈ schema.fields)
    (tagged : field.isDefaultOrder = true) (own : field.isFolded = false) :
    fieldSet.default = field.identifier := by
  obtain ⟨-, -, -, default⟩ := resolve_eq_ok_iff.mp resolved
  rw [default, defaultField?_of_tagged present tagged own, Option.elim_some]

theorem default_of_untagged {fieldSet : FieldSet}
    (resolved : schema.resolve = .ok fieldSet)
    (untagged : ∀ field ∈ schema.fields, field.isDefaultOrder = true →
      field.isFolded = true) :
    fieldSet.default = fieldSet.fields.tail.headD Identifier.createdAt := by
  obtain ⟨-, -, fields, default⟩ := resolve_eq_ok_iff.mp resolved
  rw [default, fields, defaultField?_of_untagged untagged, List.tail_cons]
  cases schema.ownFields <;> rfl

/-- A schema is resolved to the documented identifiers, or refused because of its
first conflict. -/
theorem resolves (schema : EntitySchema) : schema.Resolves where
  ordered := by
    intro fieldSet resolved
    exact (resolve_eq_ok_iff.mp resolved).2.2.1
  tagged := by
    intro fieldSet resolved field present
    exact default_of_tagged resolved present
  untagged := by
    intro fieldSet resolved
    exact default_of_untagged resolved
  valid := by
    intro sources collected
    obtain ⟨fieldSet, resolved, fields, default⟩ := exists_resolve_of_orderSources collected
    exact ⟨fieldSet, FieldSet.check_eq_ok_iff.mpr ⟨fields, default⟩, resolved⟩
  refused := fun _ => resolve_eq_error_iff
  concerned := fun _ => resolve_eq_of_orderableFields

/-! ## Collisions -/

/-- Different names among these fields have different identifiers. -/
def KeepApart (fields : List FieldDescriptor) : Prop :=
  ∀ first ∈ fields, ∀ second ∈ fields,
    first.identifier = second.identifier → first.name = second.name

theorem eq_of_name {first second : FieldDescriptor}
    (firstMember : first ∈ schema.orderableFields)
    (secondMember : second ∈ schema.orderableFields) (same : first.name = second.name) :
    first = second :=
  List.inj_on_of_nodup_map schema.names_nodup (List.mem_filter.mp firstMember).1
    (List.mem_filter.mp secondMember).1 same

theorem nodup_ownFields_iff :
    (schema.ownFields.map (·.identifier)).Nodup ↔ KeepApart schema.ownFields := by
  constructor
  · intro distinct first firstOwn second secondOwn same
    rw [List.inj_on_of_nodup_map distinct firstOwn secondOwn same]
  · intro apart
    have fields : schema.ownFields.Nodup :=
      ((List.Nodup.of_map _ schema.names_nodup).filter _).filter _
    apply fields.map_on
    intro first firstOwn second secondOwn same
    exact eq_of_name (mem_ownFields_iff.mp firstOwn).1 (mem_ownFields_iff.mp secondOwn).1
      (apart first firstOwn second secondOwn same)

theorem exists_resolve_iff :
    (∃ fieldSet, schema.resolve = .ok fieldSet) ↔
      (∀ field ∈ schema.orderableFields, field.identifier ≠ "") ∧
        KeepApart schema.ownFields := by
  rw [← nodup_ownFields_iff]
  constructor
  · rintro ⟨fieldSet, resolved⟩
    obtain ⟨named, distinct, -⟩ := resolve_eq_ok_iff.mp resolved
    exact ⟨named, distinct⟩
  · rintro ⟨named, distinct⟩
    have collected := orderSources_eq_ok_iff.mpr ⟨rfl, named, distinct⟩
    obtain ⟨fieldSet, resolved, -⟩ := exists_resolve_of_orderSources collected
    exact ⟨fieldSet, resolved⟩

/-- What becomes of different orderable fields with one identifier. -/
structure HandlesCollisions (schema : EntitySchema) : Prop where
  /-- They are in conflict, unless they are folded into the creation time. -/
  refused : ∀ first ∈ schema.orderableFields, ∀ second ∈ schema.orderableFields,
    first.name ≠ second.name → first.identifier = second.identifier →
      first.isFolded = false →
        ∃ fault, schema.resolve = .error fault ∧ fault.kind = .conflict
  /-- Exactly the schemas without such fields, and without a nameless one, are
  resolved. -/
  resolved : (∃ fieldSet, schema.resolve = .ok fieldSet) ↔
    (∀ field ∈ schema.orderableFields, field.identifier ≠ "") ∧
      KeepApart (schema.orderableFields.filter fun field => !field.isFolded)
  /-- In a resolved schema, different orderable fields have different identifiers
  exactly if the folded ones among them do. -/
  separated : ∀ fieldSet, schema.resolve = .ok fieldSet →
    (KeepApart schema.orderableFields ↔
      KeepApart (schema.orderableFields.filter (·.isFolded)))

theorem keepApart_orderableFields_iff (apart : KeepApart schema.ownFields) :
    KeepApart schema.orderableFields ↔
      KeepApart (schema.orderableFields.filter (·.isFolded)) := by
  constructor
  · intro distinct first firstFolded second secondFolded
    exact distinct first (List.mem_filter.mp firstFolded).1 second
      (List.mem_filter.mp secondFolded).1
  · intro foldedApart first firstMember second secondMember same
    have together := isFolded_of_identifier_eq same
    cases folded : first.isFolded with
    | true =>
        rw [folded] at together
        exact foldedApart first (List.mem_filter.mpr ⟨firstMember, folded⟩) second
          (List.mem_filter.mpr ⟨secondMember, together.symm⟩) same
    | false =>
        rw [folded] at together
        exact apart first (mem_ownFields_iff.mpr ⟨firstMember, folded⟩) second
          (mem_ownFields_iff.mpr ⟨secondMember, together.symm⟩) same

/-- Two orderable fields with one identifier are a conflict, unless both are folded
into the creation time. -/
theorem handlesCollisions (schema : EntitySchema) : schema.HandlesCollisions where
  refused := by
    intro first firstMember second secondMember different same own
    have otherOwn : second.isFolded = false := by
      rw [← isFolded_of_identifier_eq same, own]
    cases outcome : schema.resolve with
    | error fault =>
        exact ⟨fault, rfl, (resolve_eq_error_iff.mp outcome).kind_eq⟩
    | ok fieldSet =>
        obtain ⟨-, apart⟩ := exists_resolve_iff.mp ⟨fieldSet, outcome⟩
        exact absurd (apart first (mem_ownFields_iff.mpr ⟨firstMember, own⟩) second
          (mem_ownFields_iff.mpr ⟨secondMember, otherOwn⟩) same) different
  resolved := exists_resolve_iff
  separated := by
    intro fieldSet resolved
    exact keepApart_orderableFields_iff (exists_resolve_iff.mp ⟨fieldSet, resolved⟩).2

/-- An event with two orderable fields that have the identifier of the creation
time. -/
def eventSchema : EntitySchema where
  name := "Event"
  fields := [.make "created_at" true false, .make "createdAt" true false]
  name_nonempty := by decide
  names_nodup := by decide
  one_default := by decide

def eventFieldSet : FieldSet where
  fields := ["CreatedAt"]
  default := "CreatedAt"
  starts_createdAt := rfl
  fields_nodup := by decide
  default_mem := by decide

/-- The event is resolved although its two orderable fields share an identifier. -/
theorem eventSchema_folds_both :
    (∃ first ∈ eventSchema.orderableFields, ∃ second ∈ eventSchema.orderableFields,
        first.name ≠ second.name ∧ first.identifier = second.identifier) ∧
      eventSchema.resolve = .ok eventFieldSet := by
  have shared : Identifier.capitalize "created_at" = Identifier.capitalize "createdAt" := by
    decide +kernel
  refine ⟨⟨.make "created_at" true false, by decide, .make "createdAt" true false,
    by decide, by decide, shared⟩, ?_⟩
  decide +kernel

end EntitySchema

end Folio
