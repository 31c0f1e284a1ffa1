import Folio.Proofs.PageRequest
import Folio.Proofs.Registry

/-!
# From fields to wire forms and back

A client names a field by the wire form of its identifier.  Where wire forms
differ, this leads through the enumeration to the identifier and from there to
the field.  A client that names none gets the default of the schema.
-/

namespace Folio

/-- An accepted request is ordered by a member behind which a field stands. -/
def Contract.OrdersBy (contract : Contract) (request : PageRequest)
    (field : FieldDescriptor) : Prop :=
  ∃ member, request.orderMember? = some member ∧
    contract.orders.member? field.identifier = some member ∧
    member.identifier = field.identifier ∧
    contract.columnFor member.identifier = .ok field.name

/-- Fields, wire forms and columns of a contract lead to each other. -/
structure Contract.RoundTrips (contract : Contract) : Prop where
  /-- The wire form of a field is accepted and leads back to the field. -/
  named : ∀ field ∈ contract.schema.orderableFields, field.isFolded = false →
    ∃ request,
      PageRequest.decode contract.requestModel
          [("order", .str (Identifier.camelize field.identifier))] = .ok request ∧
        contract.OrdersBy request field
  /-- The wire forms are offered in declaration order. -/
  offered :
    contract.requestModel.allowedOrders =
      Text.ofString "createdAt" ::
        (contract.schema.orderableFields.filter fun field => !field.isFolded).map
          fun field => Identifier.camelize field.identifier
  /-- The query that asks for nothing is accepted. -/
  silent : ∃ request, PageRequest.decode contract.requestModel [] = .ok request
  /-- Without an order, the tagged field is the default. -/
  tagged : ∀ query request,
    PageRequest.decode contract.requestModel query = .ok request →
    Members.find? "order" query = none →
    ∀ field ∈ contract.schema.fields, field.isDefaultOrder = true →
      field.isFolded = false → contract.OrdersBy request field
  /-- Without a tagged field, the first field is the default. -/
  untagged : ∀ query request,
    PageRequest.decode contract.requestModel query = .ok request →
    Members.find? "order" query = none →
    (∀ field ∈ contract.schema.fields, field.isDefaultOrder = true →
      field.isFolded = true) →
    ∀ field,
      contract.schema.orderableFields.find? (fun field => !field.isFolded) =
        some field →
      contract.OrdersBy request field
  /-- Without any field, the creation time is the default. -/
  fieldless : ∀ query request,
    PageRequest.decode contract.requestModel query = .ok request →
    Members.find? "order" query = none →
    (∀ field ∈ contract.schema.orderableFields, field.isFolded = true) →
    ∃ member, request.orderMember? = some member ∧
      contract.orders.member? Identifier.createdAt = some member ∧
      member.identifier = Identifier.createdAt

namespace Contract.IsCoherent

variable {contract : Contract} {request : PageRequest} {field : FieldDescriptor}
  {query : Members}

/-- A request for the member of a field is ordered by that field. -/
theorem ordersBy (coherent : contract.IsCoherent)
    (distinct : (contract.fieldSet.fields.map Identifier.camelize).Nodup)
    (own : field ∈ contract.schema.ownFields)
    (asked : request.orderMember? = some (OrderEntry.ofIdentifier field.identifier)) :
    contract.OrdersBy request field := by
  have member : field.identifier ∈ contract.fieldSet.fields := by
    rw [coherent.fields_eq]
    exact List.mem_cons_of_mem _ (List.mem_map_of_mem own)
  refine ⟨_, asked, ?_, rfl, coherent.columnFor_own own⟩
  rw [coherent.orders_eq]
  exact OrderEnum.member?_ofIdentifiers _ distinct member

/-- Without an order, the request is for the member of the default. -/
theorem orderMember?_of_unordered (coherent : contract.IsCoherent)
    (distinct : (contract.fieldSet.fields.map Identifier.camelize).Nodup)
    (accepted : PageRequest.decode contract.requestModel query = .ok request)
    (unordered : Members.find? "order" query = none) :
    request.orderMember? =
      some (OrderEntry.ofIdentifier contract.fieldSet.default) := by
  obtain ⟨default, found, enumerated⟩ := coherent.exists_default
  rw [PageRequest.orderMember?_of_unordered enumerated accepted unordered, ← found,
    coherent.orders_eq]
  exact OrderEnum.member?_ofIdentifiers _ distinct contract.fieldSet.default_mem

/-- Without an order, the request is ordered by the default field. -/
theorem ordersBy_default (coherent : contract.IsCoherent)
    (distinct : (contract.fieldSet.fields.map Identifier.camelize).Nodup)
    (accepted : PageRequest.decode contract.requestModel query = .ok request)
    (unordered : Members.find? "order" query = none)
    (default : contract.schema.defaultField? = some field) :
    contract.OrdersBy request field := by
  apply coherent.ordersBy distinct (EntitySchema.mem_ownFields_of_default default)
  rw [coherent.orderMember?_of_unordered distinct accepted unordered,
    coherent.default_eq, default, Option.elim_some]

theorem allowedOrders_eq (coherent : contract.IsCoherent)
    (distinct : (contract.fieldSet.fields.map Identifier.camelize).Nodup) :
    contract.requestModel.allowedOrders =
      contract.fieldSet.fields.map Identifier.camelize := by
  obtain ⟨default, -, enumerated⟩ := coherent.exists_default
  rw [RequestModel.allowedOrders, RequestModel.orders?, enumerated]
  dsimp only
  rw [coherent.orders_eq]
  exact OrderEnum.wires_ofIdentifiers _ distinct

theorem camelize_createdAt :
    Identifier.camelize Identifier.createdAt = "createdAt" := by
  decide +kernel

/-- Where the wire forms differ, a contract leads from fields to wire forms and
back. -/
theorem roundTrips (coherent : contract.IsCoherent)
    (distinct : (contract.fieldSet.fields.map Identifier.camelize).Nodup) :
    contract.RoundTrips where
  named := by
    intro field orderable own
    have member : field ∈ contract.schema.ownFields :=
      EntitySchema.mem_ownFields_iff.mpr ⟨orderable, own⟩
    have identified : field.identifier ∈ contract.fieldSet.fields := by
      rw [coherent.fields_eq]
      exact List.mem_cons_of_mem _ (List.mem_map_of_mem member)
    obtain ⟨default, -, enumerated⟩ := coherent.exists_default
    have found :
        contract.orders.ofWire? (Identifier.camelize field.identifier) =
          some (OrderEntry.ofIdentifier field.identifier) := by
      rw [coherent.orders_eq]
      exact OrderEnum.ofWire?_ofIdentifiers _ distinct identified
    refine ⟨_, PageRequest.decode_wire enumerated found, ?_⟩
    exact coherent.ordersBy distinct member rfl
  offered := by
    rw [coherent.allowedOrders_eq distinct, coherent.fields_eq, List.map_cons,
      camelize_createdAt, List.map_map]
    rfl
  silent := ⟨_, PageRequest.decode_nil⟩
  tagged := by
    intro query request accepted unordered field present tagged own
    exact coherent.ordersBy_default distinct accepted unordered
      (EntitySchema.defaultField?_of_tagged present tagged own)
  untagged := by
    intro query request accepted unordered untagged field first
    apply coherent.ordersBy_default distinct accepted unordered
    rw [EntitySchema.defaultField?_of_untagged untagged, EntitySchema.ownFields,
      List.head?_filter, first]
  fieldless := by
    intro query request accepted unordered folded
    have none : contract.schema.defaultField? = none := by
      rw [EntitySchema.defaultField?, EntitySchema.ownFields_eq_nil_of_folded folded]
      rfl
    have createdAt : contract.fieldSet.default = Identifier.createdAt := by
      rw [coherent.default_eq, none, Option.elim_none]
    refine ⟨_, coherent.orderMember?_of_unordered distinct accepted unordered, ?_, ?_⟩
    · rw [createdAt, coherent.orders_eq]
      apply OrderEnum.member?_ofIdentifiers _ distinct
      rw [← createdAt]
      exact contract.fieldSet.default_mem
    · rw [createdAt]
      rfl

end Contract.IsCoherent

namespace Registry

/-- The contract registered for a schema leads from fields to wire forms and
back, as long as wire forms differ. -/
theorem register_roundTrips {registry : Registry} {shared : SharedSettings}
    {schema : EntitySchema} {response? : Option EntityModel} {contract : Contract}
    (registered : (registry.register shared schema response?).outcome = .ok contract)
    {fieldSet : FieldSet} (resolved : schema.resolve = .ok fieldSet)
    (distinct : (fieldSet.fields.map Identifier.camelize).Nodup) :
    contract.schema = schema ∧ contract.RoundTrips := by
  obtain ⟨-, fresh⟩ := register_outcome_eq_ok_iff.mp registered
  obtain ⟨settings, -, built⟩ := builtUnder_eq_some_iff.mp fresh
  obtain ⟨coherent, rfl, -, -⟩ := Contract.build_eq_ok_iff.mp built
  rw [coherent.resolves] at resolved
  obtain rfl := Except.ok.inj resolved
  exact ⟨rfl, coherent.roundTrips distinct⟩

/-- The book can be registered, and its contract leads back to its fields. -/
theorem bookSchema_roundTrips :
    ∃ contract,
      ((empty (some .standard)).register .initial bookSchema none).outcome =
          .ok contract ∧
        contract.schema = bookSchema ∧ contract.RoundTrips := by
  have succeeded :
      ((empty (some .standard)).register .initial bookSchema
        none).outcome.isOk = true := by
    decide +kernel
  obtain ⟨contract, registered⟩ := Contract.exists_of_isOk succeeded
  have distinct :
      (bookFieldSet.fields.map Identifier.camelize).Nodup := by
    decide +kernel
  exact ⟨contract, registered,
    register_roundTrips registered bookSchema_resolve distinct⟩

end Registry

end Folio
