import Folio.Proofs.OrderableField
import Folio.Proofs.Registry

/-!
# Schemas that are read off entity types

The schema of an entity type has one field for each field of the type, with what the mark
of that field says.  A schema that is written by hand and says the same is the same
schema, so that both lead to contracts that differ in nothing but the type of entities.
-/

namespace Folio

/-- Several items of a list have a property exactly if two of them do, one after the
other. -/
theorem two_le_length_filter_iff {α : Type} {holds : α → Bool} {items : List α} :
    2 ≤ (items.filter holds).length ↔
      ∃ first second, [first, second].Sublist items ∧ holds first = true ∧
        holds second = true := by
  constructor
  · intro several
    match found : items.filter holds, several with
    | first :: second :: others, _ =>
        have inside : [first, second].Sublist (items.filter holds) := by
          rw [found]
          exact ((List.nil_sublist others).cons_cons second).cons_cons first
        have both := List.forall_mem_cons.mp fun item member =>
          (List.mem_filter.mp (inside.subset member)).2
        exact ⟨first, second, inside.trans List.filter_sublist, both.1, both.2 _ (by simp)⟩
  · rintro ⟨first, second, inside, firstHolds, secondHolds⟩
    have kept := (inside.filter holds).length_le
    simpa [firstHolds, secondHolds] using kept

/-! ## Schemas by their fields -/

namespace EntitySchema

/-- A schema can be made exactly if it has a name that can be encoded, no field twice and
at most one default order. -/
theorem exists_checkNamed_iff {name : Text} {fields : List FieldDescriptor} :
    (∃ schema, checkNamed name fields = .ok schema) ↔
      name.isEncodable = true ∧ name ≠ "" ∧ (fields.map (·.name)).Nodup ∧
        (fields.filter (·.isDefaultOrder)).length ≤ 1 := by
  simp only [checkNamed_eq_ok_iff, Text.isEncodable_iff]
  constructor
  · rintro ⟨schema, rfl, rfl⟩
    exact ⟨⟨_, rfl⟩, Text.one_le_length_iff.mp schema.name_nonempty, schema.names_nodup,
      schema.one_default⟩
  · rintro ⟨⟨string, rfl⟩, named, distinct, single⟩
    exact ⟨⟨string, fields, Text.one_le_length_iff.mpr named, distinct, single⟩, rfl, rfl⟩

end EntitySchema

namespace EntitySchema

/-- A raw schema of a name and a list of fields is read part by part. -/
theorem ofJson_parts_eq_ok_iff {name : Text} {items : List Json} {schema : EntitySchema} :
    EntitySchema.ofJson (.obj [("name", .str name), ("fields", .arr items)]) = .ok schema ↔
      name ≠ "" ∧ ∃ fields,
        List.Forall₂ (fun item field => FieldDescriptor.ofJson item = .ok field) items
          fields ∧
        checkNamed name fields = .ok schema := by
  have named : ∀ found : String,
      Members.required "name" (Json.asTextOfLength 1)
          [("name", .str name), ("fields", .arr items)] = .ok found ↔
        name ≠ "" ∧ name = found := by
    intro found
    have long : (Json.str name).asTextOfLength 1 = .ok found ↔
        name ≠ "" ∧ name = found := by
      rw [Json.asTextOfLength_eq_ok_iff, Json.str.injEq, and_comm]
      apply and_congr_left
      rintro rfl
      exact Text.one_le_length_iff
    rw [← long]
    simp only [Members.required, Members.find?, ↓reduceIte]
    cases (Json.str name).asTextOfLength 1 <;> simp [Checked.ofMember]
  have listed : ∀ fields : List FieldDescriptor,
      fieldsOf [("name", .str name), ("fields", .arr items)] = .ok fields ↔
        List.Forall₂ (fun item field => FieldDescriptor.ofJson item = .ok field) items
          fields := by
    intro fields
    rw [← Checked.items_eq_ok_iff]
    exact Checked.within_eq_ok_iff
  rw [EntitySchema.ofJson, Members.whole, ofMembers, bind_eq_ok_iff]
  simp only [Checked.both_eq_ok_iff, Prod.exists, named, listed]
  constructor
  · rintro ⟨_, fields, ⟨⟨nonempty, rfl⟩, described⟩, checked⟩
    exact ⟨nonempty, fields, described, checked⟩
  · rintro ⟨nonempty, fields, described, checked⟩
    obtain ⟨rfl, -⟩ := checkNamed_eq_ok_iff.mp checked
    exact ⟨schema.name, fields, ⟨⟨nonempty, rfl⟩, described⟩, checked⟩

end EntitySchema

/-! ## Marks and flags -/

/-- The field has the name of this entry and the flags that the mark stands for. -/
structure FieldDescriptor.Reflects (field : FieldDescriptor) (entry : Text × Option Json) :
    Prop where
  name : field.name = entry.1
  orderable : field.orderable = true ↔ ∃ mark, entry.2 = some mark ∧ mark.isTruthy = true
  default : field.isDefaultOrder = true ↔ entry.2 = some (.str "default")

theorem FieldDescriptor.eq_iff {field other : FieldDescriptor} :
    field = other ↔
      field.name = other.name ∧ field.orderable = other.orderable ∧
        field.isDefaultOrder = other.isDefaultOrder := by
  cases field
  cases other
  simp

theorem FieldDescriptor.Reflects.unique {field other : FieldDescriptor}
    {entry : Text × Option Json} (reflects : field.Reflects entry)
    (otherReflects : other.Reflects entry) : field = other := by
  refine FieldDescriptor.eq_iff.mpr ⟨reflects.name.trans otherReflects.name.symm, ?_, ?_⟩
  · exact Bool.eq_iff_iff.mpr (reflects.orderable.trans otherReflects.orderable.symm)
  · exact Bool.eq_iff_iff.mpr (reflects.default.trans otherReflects.default.symm)

theorem isDefaultMark_iff {mark : Json} : isDefaultMark mark = true ↔ mark = .str "default" := by
  cases mark <;> simp [isDefaultMark]

theorem isTruthy_of_isDefaultMark {mark : Json} (default : isDefaultMark mark = true) :
    mark.isTruthy = true := by
  rw [isDefaultMark_iff.mp default]
  decide

namespace EntityModel

theorem reflects_descriptor (entry : Text × Option Json) :
    (descriptor entry).Reflects entry := by
  obtain ⟨name, mark?⟩ := entry
  cases mark? with
  | none => constructor <;> simp [descriptor, FieldDescriptor.make]
  | some mark =>
      constructor
      case name => rfl
      case orderable =>
        simp only [descriptor, FieldDescriptor.make, Bool.or_eq_true, Option.some.injEq,
          exists_eq_left']
        exact or_iff_left_of_imp isTruthy_of_isDefaultMark
      case default =>
        simp only [descriptor, FieldDescriptor.make, isDefaultMark_iff, Option.some.injEq]

theorem reflects_iff {field : FieldDescriptor} {entry : Text × Option Json} :
    field.Reflects entry ↔ descriptor entry = field := by
  constructor
  · exact (reflects_descriptor entry).unique
  · rintro rfl
    exact reflects_descriptor entry

theorem forall₂_reflects_iff {entries : List (Text × Option Json)}
    {fields : List FieldDescriptor} :
    List.Forall₂ (fun entry field => FieldDescriptor.Reflects field entry) entries fields ↔
      fields = entries.map descriptor := by
  constructor
  · intro paired
    induction paired with
    | nil => rfl
    | cons reflects _ inductionHypothesis =>
        rw [inductionHypothesis, List.map_cons, reflects.unique (reflects_descriptor _)]
  · rintro rfl
    rw [List.forall₂_map_right_iff, List.forall₂_same]
    intro entry _
    exact reflects_descriptor entry

/-! ## Types that can be declared -/

/-- The types of entities that there are: articles, and records that can be defined. -/
inductive IsDeclared : EntityModel → Prop
  | article : IsDeclared .article
  | record {name : String} {fields : List EntityField} {model : EntityModel}
      (defined : define name fields = .ok model) : IsDeclared model

theorem mem_names_insertField {name : String} {field : EntityField}
    {fields : List EntityField} :
    name ∈ (insertField field fields).map (·.name) ↔
      name = field.name ∨ name ∈ fields.map (·.name) := by
  induction fields with
  | nil => simp [insertField]
  | cons present later inductionHypothesis =>
      rw [insertField]
      split
      · rename_i same
        simp [same]
      · rw [List.map_cons, List.mem_cons, inductionHypothesis, List.map_cons, List.mem_cons]
        exact or_left_comm

theorem nodup_insertField {field : EntityField} {fields : List EntityField}
    (distinct : (fields.map (·.name)).Nodup) :
    ((insertField field fields).map (·.name)).Nodup := by
  induction fields with
  | nil => simp [insertField]
  | cons present later inductionHypothesis =>
      rw [List.map_cons, List.nodup_cons] at distinct
      rw [insertField]
      split
      · rename_i same
        rw [List.map_cons, List.nodup_cons, ← same]
        exact distinct
      · rename_i different
        rw [List.map_cons, List.nodup_cons, mem_names_insertField, not_or]
        exact ⟨⟨different, distinct.1⟩, inductionHypothesis distinct.2⟩

theorem nodup_foldl_insertField {present : List EntityField} (fields : List EntityField)
    (distinct : (present.map (·.name)).Nodup) :
    ((fields.foldl (fun present field => insertField field present) present).map
      (·.name)).Nodup := by
  induction fields generalizing present with
  | nil => exact distinct
  | cons field later inductionHypothesis =>
      exact inductionHypothesis (nodup_insertField distinct)

/-- No two fields of a type have one name. -/
theorem IsDeclared.names_nodup {model : EntityModel} (declared : model.IsDeclared) :
    (model.marks.map (·.1)).Nodup := by
  cases declared with
  | article => decide
  | @record name fields _ defined =>
      unfold define at defined
      split at defined
      · cases defined
      · cases defined
        have distinct : ((fields.foldl (fun present field => insertField field present)
            []).map (·.name)).Nodup :=
          nodup_foldl_insertField fields List.nodup_nil
        have carried := distinct.map fun _ _ => Text.ofString_inj.mp
        simpa [marks, Function.comp_def] using carried

/-- The marks of fields do not depend on anything but their names and what is said about
them. -/
theorem marks_record_eq {name : String} {fields changed : List EntityField}
    (same : List.Forall₂ (fun field other : EntityField =>
      other.name = field.name ∧ other.extra = field.extra) fields changed) :
    (EntityModel.record name changed).marks = (EntityModel.record name fields).marks := by
  unfold marks
  induction same with
  | nil => rfl
  | cons equal _ inductionHypothesis =>
      dsimp only at inductionHypothesis ⊢
      rw [List.map_cons, List.map_cons, inductionHypothesis, EntityField.mark?,
        EntityField.mark?, equal.1, equal.2]

/-! ## The schema of a type -/

section Schema

variable {model : EntityModel} {name? : Option Text} {schema : EntitySchema}

theorem schema_eq (model : EntityModel) (name? : Option Text) :
    model.schema name? =
      EntitySchema.checkNamed (model.schemaName name?) (model.marks.map descriptor) :=
  rfl

theorem schemaName_ne_empty (named : model.name ≠ "") : model.schemaName name? ≠ "" := by
  have own : Text.ofString model.name ≠ "" := by
    rwa [ne_eq, Text.ofString_inj]
  unfold schemaName
  split
  · split
    · exact own
    · assumption
  · exact own

/-- The schema of a type is the one whose fields reflect those of the type. -/
theorem schema_eq_ok_iff :
    model.schema name? = .ok schema ↔
      Text.ofString schema.name = model.schemaName name? ∧
        List.Forall₂ (fun entry field => FieldDescriptor.Reflects field entry) model.marks
          schema.fields := by
  rw [schema_eq, EntitySchema.checkNamed_eq_ok_iff, forall₂_reflects_iff]

theorem names_descriptors (model : EntityModel) :
    (model.marks.map descriptor).map (·.name) = model.marks.map (·.1) := by
  rw [List.map_map]
  apply List.map_congr_left
  intro entry _
  exact (reflects_descriptor entry).name

/-- The fields of a type that carry the mark of the default order. -/
def defaultMarks (model : EntityModel) : List (Text × Option Json) :=
  model.marks.filter fun entry => (entry.2.map isDefaultMark).getD false

theorem defaultMarks_eq (model : EntityModel) :
    (model.marks.map descriptor).filter (·.isDefaultOrder) =
      model.defaultMarks.map descriptor := by
  rw [List.filter_map, defaultMarks]
  congr 1
  apply List.filter_congr
  rintro ⟨name, mark?⟩ _
  cases mark? <;> rfl

theorem exists_schema_iff (declared : model.IsDeclared) (named : model.name ≠ "") :
    (∃ schema, model.schema name? = .ok schema) ↔
      (model.schemaName name?).isEncodable = true ∧ model.defaultMarks.length ≤ 1 := by
  rw [schema_eq, EntitySchema.exists_checkNamed_iff, names_descriptors, defaultMarks_eq,
    List.length_map, and_iff_right (schemaName_ne_empty named),
    and_iff_right declared.names_nodup]

theorem exists_schema_eq_error_iff_not :
    (∃ issues, model.schema name? = .error issues) ↔
      ¬ ∃ schema, model.schema name? = .ok schema := by
  cases model.schema name? <;> simp

/-- Under a name that can be encoded, a type has no schema exactly if two of its fields
are marked as the default order. -/
theorem exists_schema_eq_error_iff (declared : model.IsDeclared) (named : model.name ≠ "")
    (encodable : (model.schemaName name?).isEncodable = true) :
    (∃ issues, model.schema name? = .error issues) ↔
      ∃ first second, [first, second].Sublist model.marks ∧
        first.2 = some (.str "default") ∧ second.2 = some (.str "default") := by
  have marked : ∀ entry : Text × Option Json,
      (entry.2.map isDefaultMark).getD false = true ↔ entry.2 = some (.str "default") := by
    rintro ⟨name, mark?⟩
    cases mark? <;> simp [isDefaultMark_iff]
  rw [exists_schema_eq_error_iff_not, exists_schema_iff declared named,
    and_iff_right encodable, Nat.not_le, ← Nat.succ_le_iff, defaultMarks,
    two_le_length_filter_iff]
  simp only [marked]

/-! ## Schemas that are written by hand -/

/-- The raw field that says what an entry says. -/
def spelledField (entry : Text × Option Json) : Json :=
  .obj [("name", .str entry.1),
    ("orderable", .bool ((entry.2.map Json.isTruthy).getD false)),
    ("is_default_order", .bool ((entry.2.map isDefaultMark).getD false))]

/-- The raw schema that says what the marks of a type say. -/
def spelledSchema (model : EntityModel) (name? : Option Text) : Json :=
  .obj [("name", .str (model.schemaName name?)),
    ("fields", .arr (model.marks.map spelledField))]

theorem ofJson_spelledField (entry : Text × Option Json) :
    FieldDescriptor.ofJson (spelledField entry) = .ok (descriptor entry) := by
  have flags : ∀ (name : Text) (orderable isDefaultOrder : Bool),
      FieldDescriptor.ofJson
          (.obj [("name", .str name), ("orderable", .bool orderable),
            ("is_default_order", .bool isDefaultOrder)]) =
        .ok (.make name orderable isDefaultOrder) := by
    intro name orderable isDefaultOrder
    cases isDefaultOrder <;> cases orderable <;> rfl
  obtain ⟨name, mark?⟩ := entry
  cases mark? with
  | none => exact flags name false false
  | some mark => exact flags name mark.isTruthy (isDefaultMark mark)

/-- The raw schema that says what the marks say is read as the schema of the type. -/
theorem ofJson_spelledSchema :
    EntitySchema.ofJson (model.spelledSchema name?) = .ok schema ↔
      model.schema name? = .ok schema := by
  have described : ∀ fields : List FieldDescriptor,
      List.Forall₂ (fun item field => FieldDescriptor.ofJson item = .ok field)
          (model.marks.map spelledField) fields ↔
        fields = model.marks.map descriptor := by
    intro fields
    rw [← forall₂_reflects_iff, List.forall₂_map_left_iff]
    simp only [ofJson_spelledField, Except.ok.injEq, reflects_iff]
  rw [spelledSchema, EntitySchema.ofJson_parts_eq_ok_iff, schema_eq]
  simp only [described, exists_eq_left]
  constructor
  · exact And.right
  · intro checked
    exact ⟨(EntitySchema.exists_checkNamed_iff.mp ⟨schema, checked⟩).2.1, checked⟩

end Schema

end EntityModel

/-! ## Contracts -/

/-- The contracts agree in everything that a client can tell. -/
structure Contract.Alike (contract other : Contract) : Prop where
  fieldSet : contract.fieldSet = other.fieldSet
  members : contract.orders.members = other.orders.members
  wires : contract.orders.wires = other.orders.wires
  default : contract.requestModel.defaultOrder? = other.requestModel.defaultOrder?
  limits : contract.requestModel.limits = other.requestModel.limits
  /-- Every query is read as the same request, or refused with the same fault. -/
  decoded : ∀ query, PageRequest.decode contract.requestModel query =
    PageRequest.decode other.requestModel query
  columned : ∀ identifier, contract.columnFor identifier = other.columnFor identifier

namespace Registry

variable {registry : Registry} {shared : SharedSettings} {schema : EntitySchema}

/-- The type of the entities has no part in a registration but to be kept. -/
theorem register_outcome_of_response (response? other? : Option EntityModel) :
    (registry.register shared schema other?).outcome =
      (registry.register shared schema response?).outcome.map fun contract =>
        { contract with response? := other? } := by
  rw [register_outcome, register_outcome]
  split
  · rfl
  · cases schema.resolve.mapError Failure.fault with
    | error failure => rfl
    | ok fieldSet =>
        simp only [bind, Except.bind]
        cases OrderEnum.build schema.name fieldSet with
        | error failure => rfl
        | ok orders =>
            dsimp only
            cases registry.inForce shared with
            | error failure => rfl
            | ok settings =>
                simp only [Contract.ofOrders]
                cases RequestModel.ofOrders schema.name orders fieldSet.default
                  settings.limits <;> rfl

theorem registerModel_of_schema {model : EntityModel} {name? : Option Text}
    (derived : model.schema name? = .ok schema) :
    registry.registerModel shared model name? =
      registry.register shared schema (some model) := by
  rw [registerModel, derived]

end Registry

/-- What becomes of an entity type, as against a schema that is written by hand. -/
structure EntityModel.Describes (model : EntityModel) (name? : Option Text) : Prop where
  /-- The schema has one field for each field of the type, in declaration order. -/
  described : ∀ schema, model.schema name? = .ok schema →
    Text.ofString schema.name = model.schemaName name? ∧
      List.Forall₂ (fun entry field => FieldDescriptor.Reflects field entry) model.marks
        schema.fields
  /-- There is none exactly if two fields are marked as the default order. -/
  refused : (model.schemaName name?).isEncodable = true →
    ((∃ issues, model.schema name? = .error issues) ↔
      ∃ first second, [first, second].Sublist model.marks ∧
        first.2 = some (.str "default") ∧ second.2 = some (.str "default"))
  /-- A text that cannot be encoded is no name of a schema. -/
  unnamed : (model.schemaName name?).isEncodable = false →
    ∃ issues, model.schema name? = .error issues
  /-- Other names under which fields are read, their types and their default values make
  no difference. -/
  unaliased : ∀ name fields changed, model = .record name fields →
    List.Forall₂ (fun field other : EntityField =>
      other.name = field.name ∧ other.extra = field.extra) fields changed →
    (EntityModel.record name changed).schema name? = model.schema name?
  /-- A schema whose fields reflect those of the type is the schema of the type. -/
  determined : ∀ schema : EntitySchema,
    Text.ofString schema.name = model.schemaName name? →
    List.Forall₂ (fun entry field => FieldDescriptor.Reflects field entry) model.marks
      schema.fields →
    model.schema name? = .ok schema
  /-- The raw schema that spells the flags out is read as the schema of the type. -/
  spelled : ∀ schema, EntitySchema.ofJson (model.spelledSchema name?) = .ok schema ↔
    model.schema name? = .ok schema
  /-- The type is registered exactly if this schema is. -/
  registered : ∀ (registry : Registry) (shared : SharedSettings)
    (response? : Option EntityModel),
    (∃ contract, (registry.registerModel shared model name?).outcome = .ok contract) ↔
      ∃ schema, EntitySchema.ofJson (model.spelledSchema name?) = .ok schema ∧
        ∃ contract, (registry.register shared schema response?).outcome = .ok contract
  /-- Both are registered with contracts that agree. -/
  alike : ∀ (registry : Registry) (shared : SharedSettings)
    (response? : Option EntityModel) (schema : EntitySchema) (contract other : Contract),
    (registry.registerModel shared model name?).outcome = .ok contract →
    EntitySchema.ofJson (model.spelledSchema name?) = .ok schema →
    (registry.register shared schema response?).outcome = .ok other →
    contract.Alike other

/-- A type that can be declared has the schema that its marks spell out, and the contract
of that schema. -/
theorem EntityModel.describes {model : EntityModel} (declared : model.IsDeclared)
    (named : model.name ≠ "") (name? : Option Text) : model.Describes name? where
  described := by
    intro schema derived
    exact schema_eq_ok_iff.mp derived
  refused := exists_schema_eq_error_iff declared named
  unnamed := by
    intro unencodable
    rw [exists_schema_eq_error_iff_not, exists_schema_iff declared named, unencodable]
    simp
  unaliased := by
    rintro name fields changed rfl same
    rw [schema_eq, schema_eq, marks_record_eq same]
    rfl
  determined := by
    intro schema sameName reflects
    exact schema_eq_ok_iff.mpr ⟨sameName, reflects⟩
  spelled := fun _ => ofJson_spelledSchema
  registered := by
    intro registry shared response?
    simp only [ofJson_spelledSchema]
    cases derived : model.schema name? with
    | error issues => simp [Registry.registerModel, derived, Registry.refused]
    | ok schema =>
        rw [Registry.registerModel_of_schema derived,
          Registry.register_outcome_of_response response? (some model)]
        cases outcome : (registry.register shared schema response?).outcome <;>
          simp [outcome, Except.map]
  alike := by
    intro registry shared response? schema contract other modelled written registered
    rw [ofJson_spelledSchema] at written
    rw [Registry.registerModel_of_schema written,
      Registry.register_outcome_of_response response?, registered] at modelled
    cases modelled
    constructor
    all_goals intros; rfl

def memoFields : List EntityField :=
  [{ name := "subject", type := ⟨.text, false⟩, alias? := some "dueAt", default? := none,
     extra := [("order", .int 2)] },
    { name := "due_at", type := ⟨.text, true⟩, alias? := none, default? := some .null,
      extra := [("order", .str "default")] },
    { name := "body", type := ⟨.text, false⟩, alias? := some "text", default? := none,
      extra := [("order", .arr [])] }]

def memoModel : EntityModel := .record "Memo" memoFields

/-- A memo is ordered by its subject and by default by the day when it is due, whatever
names these fields are read under. -/
theorem memoModel_describes :
    memoModel.IsDeclared ∧ memoModel.name ≠ "" ∧ memoModel.Describes (some "Note") ∧
      ∃ contract, ((Registry.empty none).registerModel .initial memoModel
          (some "Note")).outcome = .ok contract ∧
        contract.fieldSet.fields = ["CreatedAt", "Subject", "DueAt"] ∧
        contract.fieldSet.default = "DueAt" := by
  have declared : memoModel.IsDeclared :=
    @EntityModel.IsDeclared.record "Memo" memoFields memoModel rfl
  have named : memoModel.name ≠ "" := by
    decide
  have found : (((Registry.empty none).registerModel .initial memoModel
      (some "Note")).outcome.toOption.map fun contract =>
        (contract.fieldSet.fields, contract.fieldSet.default)) =
      some ((["CreatedAt", "Subject", "DueAt"] : List Text), ("DueAt" : Text)) := by
    decide +kernel
  obtain ⟨contract, registered, parts⟩ := Option.map_eq_some_iff.mp found
  obtain ⟨fields, default⟩ := Prod.mk.inj parts
  exact ⟨declared, named, EntityModel.describes declared named (some "Note"), contract,
    Registry.toOption_eq_some_iff.mp registered, fields, default⟩

end Folio
