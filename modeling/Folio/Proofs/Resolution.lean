import Folio.FieldSet.Resolution
import Folio.Proofs.Identifier
import Mathlib.Data.List.Nodup

/-!
# What resolving a schema yields

A schema is resolved exactly if all its orderable fields have identifiers and the
fields that are not folded into the creation time have different ones.  The
field set is then the creation time, followed by the identifiers of these fields
in declaration order.  All of them can be encoded exactly if the names of the
orderable fields can.
-/

namespace Folio

section Lookup

variable {α β : Type} [DecidableEq β] {key : α → β} {items : List α} {item : α}

/-- Under the key of an item, an item with this key is found. -/
theorem exists_find?_eq_some (present : item ∈ items) :
    ∃ other, items.find? (fun other => key other == key item) = some other ∧
      other ∈ items ∧ key other = key item := by
  have some : (items.find? fun other => key other == key item).isSome := by
    rw [List.find?_isSome]
    exact ⟨item, present, beq_self_eq_true (key item)⟩
  obtain ⟨other, found⟩ := Option.isSome_iff_exists.mp some
  refine ⟨other, found, List.mem_of_find?_eq_some found, ?_⟩
  simpa using List.find?_some found

/-- Where keys differ, every item is found under its own. -/
theorem find?_eq_some_of_nodup (distinct : (items.map key).Nodup)
    (present : item ∈ items) :
    items.find? (fun other => key other == key item) = some item := by
  obtain ⟨other, found, otherPresent, same⟩ := @exists_find?_eq_some α β _ key items item present
  rw [found, List.inj_on_of_nodup_map distinct otherPresent present same]

end Lookup

def FieldDescriptor.identifier (field : FieldDescriptor) : Text :=
  Identifier.capitalize field.name

def FieldDescriptor.isFolded (field : FieldDescriptor) : Bool :=
  Identifier.spellsCreatedAt field.identifier

theorem FieldDescriptor.isFolded_of_identifier_eq {field other : FieldDescriptor}
    (same : other.identifier = field.identifier) : other.isFolded = field.isFolded := by
  rw [isFolded, isFolded, same]

namespace OrderSource

/-- The sources of the fields that are not folded. -/
def ofFields (fields : List FieldDescriptor) : List OrderSource :=
  (fields.filter fun field => !field.isFolded).map ofField

@[simp] theorem ofField_identifier (field : FieldDescriptor) :
    (ofField field).identifier = field.identifier := rfl

@[simp] theorem ofField_field (field : FieldDescriptor) :
    (ofField field).field = field := rfl

theorem ofFields_cons_of_folded {field : FieldDescriptor}
    {later : List FieldDescriptor} (folded : field.isFolded = true) :
    ofFields (field :: later) = ofFields later := by
  simp [ofFields, folded]

theorem ofFields_cons_of_not_folded {field : FieldDescriptor}
    {later : List FieldDescriptor} (own : field.isFolded = false) :
    ofFields (field :: later) = ofField field :: ofFields later := by
  simp [ofFields, own]

theorem collect_of_folded {earlier : List OrderSource} {field : FieldDescriptor}
    {later : List FieldDescriptor} (named : field.identifier ≠ "")
    (folded : field.isFolded = true) :
    collect earlier (field :: later) = collect earlier later := by
  simp only [FieldDescriptor.isFolded] at folded
  simp [collect, named, folded]

/-- A field with an identifier of its own is collected, unless the identifier
occurred before. -/
theorem collect_of_own_eq_ok_iff {earlier sources : List OrderSource}
    {field : FieldDescriptor} {later : List FieldDescriptor}
    (named : field.identifier ≠ "") (own : field.isFolded = false) :
    collect earlier (field :: later) = .ok sources ↔
      (∀ previous ∈ earlier, previous.identifier ≠ field.identifier) ∧
        ∃ rest, collect (earlier ++ [ofField field]) later = .ok rest ∧
          sources = ofField field :: rest := by
  simp only [FieldDescriptor.isFolded] at own
  simp only [collect, ofField_identifier, named, ↓reduceIte, own,
    Bool.false_eq_true]
  cases found : earlier.find? (·.identifier == field.identifier) with
  | some previous =>
      have present := List.mem_of_find?_eq_some found
      have same : previous.identifier = field.identifier := by
        simpa using List.find?_some found
      simp only [reduceCtorEq, false_iff, not_and]
      intro fresh
      exact absurd same (fresh previous present)
  | none =>
      have fresh : ∀ previous ∈ earlier,
          previous.identifier ≠ field.identifier := by
        simpa using List.find?_eq_none.mp found
      cases collect (earlier ++ [ofField field]) later with
      | error fault => simp [bind, Except.bind]
      | ok rest =>
          simp only [bind, Except.bind, pure, Except.pure, Except.ok.injEq,
            exists_eq_left', eq_comm (a := sources)]
          exact ⟨fun same => ⟨fresh, same⟩, And.right⟩

/-- Collecting succeeds with the sources of the fields that are not folded,
unless a field has no identifier or one that occurred before. -/
theorem collect_eq_ok_iff {earlier sources : List OrderSource}
    {fields : List FieldDescriptor} :
    collect earlier fields = .ok sources ↔
      sources = ofFields fields ∧ (∀ field ∈ fields, field.identifier ≠ "") ∧
        (sources.map (·.identifier)).Nodup ∧
        ∀ previous ∈ earlier, ∀ source ∈ sources,
          previous.identifier ≠ source.identifier := by
  induction fields generalizing earlier sources with
  | nil =>
      simp only [collect, Except.ok.injEq, ofFields, List.filter_nil,
        List.map_nil, eq_comm (a := ([] : List OrderSource))]
      constructor
      · rintro rfl
        simp
      · exact And.left
  | cons field later inductionHypothesis =>
      by_cases named : field.identifier = ""
      · have failed : collect earlier (field :: later) ≠ .ok sources := by
          simp [collect, named]
        simp [failed, named]
      · cases folded : field.isFolded with
        | true =>
            rw [collect_of_folded named folded, inductionHypothesis,
              ofFields_cons_of_folded folded]
            simp [named]
        | false =>
            rw [collect_of_own_eq_ok_iff named folded,
              ofFields_cons_of_not_folded folded]
            constructor
            · rintro ⟨fresh, rest, collected, rfl⟩
              obtain ⟨rfl, restNamed, different, apart⟩ :=
                inductionHypothesis.mp collected
              refine ⟨rfl, ?_, ?_, ?_⟩
              · simpa [named] using restNamed
              · rw [List.map_cons, List.nodup_cons]
                refine ⟨?_, different⟩
                intro member
                obtain ⟨source, sourceMember, same⟩ := List.mem_map.mp member
                exact apart (ofField field) (by simp) source sourceMember same.symm
              · intro previous present source member
                rcases List.mem_cons.mp member with rfl | tailMember
                · exact fresh previous present
                · exact apart previous (List.mem_append_left _ present) source
                    tailMember
            · rintro ⟨rfl, allNamed, different, apart⟩
              rw [List.map_cons, List.nodup_cons] at different
              refine ⟨fun previous present =>
                apart previous present (ofField field) List.mem_cons_self,
                ofFields later, ?_, rfl⟩
              refine inductionHypothesis.mpr ⟨rfl, fun other member =>
                allNamed other (List.mem_cons_of_mem _ member), different.2, ?_⟩
              intro previous present source member
              rcases List.mem_append.mp present with before | only
              · exact apart previous before source (List.mem_cons_of_mem _ member)
              · rw [List.mem_singleton.mp only]
                intro same
                exact different.1 (same ▸ List.mem_map_of_mem member)

theorem defaultIdentifier_ofFields (fields : List FieldDescriptor) :
    defaultIdentifier (ofFields fields) =
      (((fields.filter fun field => !field.isFolded).find? (·.isDefaultOrder)).or
        (fields.filter fun field => !field.isFolded).head?).elim
          Identifier.createdAt FieldDescriptor.identifier := by
  unfold defaultIdentifier ofFields
  generalize (fields.filter fun field => !field.isFolded) = own
  rw [List.find?_map]
  cases found : own.find? (·.isDefaultOrder) with
  | some field => simp [Function.comp_def, found]
  | none => cases own <;> simp [Function.comp_def, found]

end OrderSource

theorem FieldSet.eq_iff {fieldSet other : FieldSet} :
    fieldSet = other ↔
      fieldSet.fields = other.fields ∧ fieldSet.default = other.default := by
  cases fieldSet
  cases other
  simp

namespace EntitySchema

/-- The orderable fields that are not folded into the creation time. -/
def ownFields (schema : EntitySchema) : List FieldDescriptor :=
  schema.orderableFields.filter fun field => !field.isFolded

/-- The field by which listings are ordered by default, unless this is the
creation time: the field tagged as default, or else the first one. -/
def defaultField? (schema : EntitySchema) : Option FieldDescriptor :=
  (schema.ownFields.find? (·.isDefaultOrder)).or schema.ownFields.head?

theorem mem_ownFields_iff {schema : EntitySchema} {field : FieldDescriptor} :
    field ∈ schema.ownFields ↔
      field ∈ schema.orderableFields ∧ field.isFolded = false := by
  simp [ownFields]

theorem map_identifier_ofFields (schema : EntitySchema) :
    (OrderSource.ofFields schema.orderableFields).map (·.identifier) =
      schema.ownFields.map (·.identifier) := by
  simp [OrderSource.ofFields, ownFields, Function.comp_def]

theorem orderSources_eq_ok_iff {schema : EntitySchema}
    {sources : List OrderSource} :
    schema.orderSources = .ok sources ↔
      sources = OrderSource.ofFields schema.orderableFields ∧
        (∀ field ∈ schema.orderableFields, field.identifier ≠ "") ∧
        (schema.ownFields.map (·.identifier)).Nodup := by
  rw [orderSources, OrderSource.collect_eq_ok_iff]
  constructor
  · rintro ⟨rfl, named, different, -⟩
    rw [map_identifier_ofFields] at different
    exact ⟨rfl, named, different⟩
  · rintro ⟨rfl, named, different⟩
    refine ⟨rfl, named, ?_, by simp⟩
    rwa [map_identifier_ofFields]

/-- What is collected always makes a field set. -/
theorem exists_resolve_of_orderSources {schema : EntitySchema} {sources : List OrderSource}
    (collected : schema.orderSources = .ok sources) :
    ∃ fieldSet, schema.resolve = .ok fieldSet ∧
      fieldSet.fields = Identifier.createdAt :: sources.map (·.identifier) ∧
      fieldSet.default = OrderSource.defaultIdentifier sources := by
  unfold resolve
  split
  · rename_i cause failed
    rw [collected] at failed
    cases failed
  · rename_i found succeeded
    rw [collected] at succeeded
    cases succeeded
    exact ⟨_, rfl, rfl, rfl⟩

theorem resolve_of_orderSources {schema : EntitySchema} {fault : Fault}
    (failed : schema.orderSources = .error fault) :
    schema.resolve = .error fault := by
  unfold resolve
  split
  · rename_i cause same
    rw [failed] at same
    cases same
    rfl
  · rename_i sources collected
    rw [failed] at collected
    cases collected

/-- A schema is resolved exactly if all orderable fields have identifiers and
those of the fields that are not folded differ. -/
theorem resolve_eq_ok_iff {schema : EntitySchema} {fieldSet : FieldSet} :
    schema.resolve = .ok fieldSet ↔
      (∀ field ∈ schema.orderableFields, field.identifier ≠ "") ∧
        (schema.ownFields.map (·.identifier)).Nodup ∧
        fieldSet.fields =
          Identifier.createdAt :: schema.ownFields.map (·.identifier) ∧
        fieldSet.default =
          schema.defaultField?.elim Identifier.createdAt (·.identifier) := by
  cases collected : schema.orderSources with
  | error fault =>
      rw [resolve_of_orderSources collected]
      simp only [reduceCtorEq, false_iff, not_and]
      intro named fresh
      have success := orderSources_eq_ok_iff.mpr ⟨rfl, named, fresh⟩
      rw [collected] at success
      cases success
  | ok sources =>
      obtain ⟨found, resolved, fields, default⟩ :=
        exists_resolve_of_orderSources collected
      obtain ⟨rfl, named, fresh⟩ := orderSources_eq_ok_iff.mp collected
      rw [map_identifier_ofFields] at fields
      rw [OrderSource.defaultIdentifier_ofFields] at default
      rw [resolved, Except.ok.injEq, eq_comm, FieldSet.eq_iff, fields, default]
      constructor
      · rintro ⟨left, right⟩
        exact ⟨named, fresh, left, right⟩
      · rintro ⟨-, -, left, right⟩
        exact ⟨left, right⟩

/-! ## The default field -/

section Default

variable {schema : EntitySchema} {field other : FieldDescriptor}

theorem eq_of_tagged (present : field ∈ schema.fields)
    (otherPresent : other ∈ schema.fields) (tagged : field.isDefaultOrder = true)
    (otherTagged : other.isDefaultOrder = true) :
    field = other := by
  have member := List.mem_filter.mpr ⟨present, tagged⟩
  have otherMember := List.mem_filter.mpr ⟨otherPresent, otherTagged⟩
  have single := schema.one_default
  generalize schema.fields.filter (·.isDefaultOrder) = defaults
    at member otherMember single
  rcases defaults with _ | ⟨only, _ | ⟨next, rest⟩⟩
  · cases member
  · rw [List.mem_singleton.mp member, List.mem_singleton.mp otherMember]
  · simp at single

theorem mem_fields_of_own (own : field ∈ schema.ownFields) : field ∈ schema.fields :=
  (List.mem_filter.mp (mem_ownFields_iff.mp own).1).1

theorem mem_ownFields_of_default (default : schema.defaultField? = some field) :
    field ∈ schema.ownFields := by
  rcases Option.or_eq_some_iff.mp default with tagged | ⟨-, first⟩
  · exact List.mem_of_find?_eq_some tagged
  · exact List.mem_of_head? first

theorem defaultField?_of_tagged (present : field ∈ schema.fields)
    (tagged : field.isDefaultOrder = true) (own : field.isFolded = false) :
    schema.defaultField? = some field := by
  have member : field ∈ schema.ownFields := by
    refine mem_ownFields_iff.mpr ⟨?_, own⟩
    exact List.mem_filter.mpr ⟨present, field.default_orderable tagged⟩
  unfold defaultField?
  cases found : schema.ownFields.find? (·.isDefaultOrder) with
  | none =>
      exact absurd tagged (List.find?_eq_none.mp found field member)
  | some other =>
      have otherPresent := mem_fields_of_own (List.mem_of_find?_eq_some found)
      have otherTagged : other.isDefaultOrder = true := by
        simpa using List.find?_some found
      rw [eq_of_tagged otherPresent present otherTagged tagged, Option.some_or]

theorem defaultField?_of_untagged
    (untagged : ∀ field ∈ schema.fields, field.isDefaultOrder = true →
      field.isFolded = true) :
    schema.defaultField? = schema.ownFields.head? := by
  have none : schema.ownFields.find? (·.isDefaultOrder) = none := by
    rw [List.find?_eq_none]
    intro field own tagged
    have folded := untagged field (mem_fields_of_own own) tagged
    rw [(mem_ownFields_iff.mp own).2] at folded
    cases folded
  rw [defaultField?, none, Option.none_or]

theorem ownFields_eq_nil_of_folded
    (folded : ∀ field ∈ schema.orderableFields, field.isFolded = true) :
    schema.ownFields = [] := by
  rw [ownFields, List.filter_eq_nil_iff]
  intro field member
  simp [folded field member]

end Default

end EntitySchema

theorem FieldSet.isProper_of_resolve {schema : EntitySchema} {fieldSet : FieldSet}
    (resolved : schema.resolve = .ok fieldSet) :
    ∀ identifier ∈ fieldSet.fields, Identifier.IsProper identifier := by
  obtain ⟨named, -, fields, -⟩ := EntitySchema.resolve_eq_ok_iff.mp resolved
  intro identifier member
  rw [fields] at member
  rcases List.mem_cons.mp member with rfl | own
  · exact Identifier.createdAt_isProper
  · obtain ⟨field, fieldMember, rfl⟩ := List.mem_map.mp own
    exact Identifier.capitalize_isProper
      (named field (List.mem_filter.mp fieldMember).1)

/-! ## Encodable names -/

theorem FieldDescriptor.isEncodable_identifier (field : FieldDescriptor) :
    field.identifier.isEncodable = field.name.isEncodable :=
  Identifier.isEncodable_capitalize field.name

/-- Only names that can be encoded are folded into the creation time. -/
theorem FieldDescriptor.isEncodable_of_isFolded {field : FieldDescriptor}
    (folded : field.isFolded = true) : field.name.isEncodable = true := by
  rw [isFolded, Identifier.spellsCreatedAt, beq_iff_eq] at folded
  rw [← isEncodable_identifier, ← Text.isEncodable_lower, folded,
    Text.isEncodable_lower, Identifier.createdAt, Text.isEncodable_ofString]

/-- The names of all orderable fields can be encoded. -/
def EntitySchema.HasEncodableOrders (schema : EntitySchema) : Prop :=
  ∀ field ∈ schema.orderableFields, field.name.isEncodable = true

instance (schema : EntitySchema) : Decidable schema.HasEncodableOrders :=
  inferInstanceAs (Decidable (∀ field ∈ schema.orderableFields, _ = true))

theorem FieldSet.forall_isEncodable_iff_of_resolve {schema : EntitySchema}
    {fieldSet : FieldSet} (resolved : schema.resolve = .ok fieldSet) :
    (∀ identifier ∈ fieldSet.fields, identifier.isEncodable = true) ↔
      schema.HasEncodableOrders := by
  obtain ⟨-, -, fields, -⟩ := EntitySchema.resolve_eq_ok_iff.mp resolved
  rw [fields, List.forall_mem_cons]
  constructor
  · rintro ⟨-, own⟩ field orderable
    cases folded : field.isFolded with
    | true => exact field.isEncodable_of_isFolded folded
    | false =>
        rw [← field.isEncodable_identifier]
        exact own _ (List.mem_map_of_mem
          (EntitySchema.mem_ownFields_iff.mpr ⟨orderable, folded⟩))
  · intro encodable
    refine ⟨Text.isEncodable_ofString _, ?_⟩
    intro identifier member
    obtain ⟨field, own, rfl⟩ := List.mem_map.mp member
    rw [field.isEncodable_identifier]
    exact encodable field (EntitySchema.mem_ownFields_iff.mp own).1

end Folio
