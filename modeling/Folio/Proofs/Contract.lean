import Folio.Contract
import Folio.Proofs.Order

/-!
# What a contract is made of

A contract holds the identifiers of its schema, their enumeration, and a model
of requests with that enumeration.  Its columns are found behind the identifiers
again.
-/

namespace Folio

theorem RequestModel.ofOrders_eq_ok_iff {entity default : Text}
    {orders : OrderEnum} {limits : PageLimits} {model : RequestModel} :
    ofOrders entity orders default limits = .ok model ↔
      entity.canNameType = true ∧ orders.entryWires.all Text.isEncodable = true ∧
        ∃ member, orders.member? default = some member ∧
          model =
            { name := nameFor entity, limits, orderRule := .among orders member } := by
  unfold ofOrders
  rw [← Text.checkTypeName_eq_ok_iff]
  cases entity.checkTypeName with
  | error failure => simp [bind, Except.bind]
  | ok done =>
      cases orders.entryWires.all Text.isEncodable with
      | false => simp [bind, Except.bind]
      | true => cases orders.member? default <;> simp [bind, Except.bind, eq_comm]

section Resolved

variable {schema : EntitySchema} {fieldSet : FieldSet} {entity : Text}

theorem OrderEnum.build_of_resolve (resolved : schema.resolve = .ok fieldSet)
    (named : entity.canNameType = true) :
    build entity fieldSet = .ok (.ofIdentifiers entity fieldSet.fields) :=
  build_eq_ok_of_isProper (FieldSet.isProper_of_resolve resolved) named

theorem OrderEnum.named_of_build {orders : OrderEnum}
    (resolved : schema.resolve = .ok fieldSet)
    (enumerated : build entity fieldSet = .ok orders) : entity.canNameType = true := by
  rw [build_of_isProper (FieldSet.isProper_of_resolve resolved)] at enumerated
  cases checked : entity.checkTypeName with
  | error failure =>
      rw [checked] at enumerated
      cases enumerated
  | ok done => exact Text.checkTypeName_eq_ok_iff.mp checked

/-- The wire forms of resolved identifiers can be encoded exactly if the names of the
orderable fields can. -/
theorem OrderEnum.all_isEncodable_iff_of_resolve
    (resolved : schema.resolve = .ok fieldSet) (entity : Text) :
    (ofIdentifiers entity fieldSet.fields).entryWires.all Text.isEncodable = true ↔
      schema.HasEncodableOrders := by
  rw [← FieldSet.forall_isEncodable_iff_of_resolve resolved]
  simp [entryWires, ofIdentifiers, OrderEntry.ofIdentifier]

/-- Identifiers of a resolved schema have a model of requests as long as they can be
encoded: none of them is refused, and the default names a member. -/
theorem RequestModel.exists_build_of_resolve
    (resolved : schema.resolve = .ok fieldSet)
    (encodable : schema.HasEncodableOrders)
    (named : entity.canNameType = true) (limits : PageLimits) :
    ∃ default,
      (OrderEnum.ofIdentifiers entity fieldSet.fields).member? fieldSet.default =
          some default ∧
        build entity fieldSet limits =
          .ok { name := nameFor entity, limits,
                orderRule := .among (.ofIdentifiers entity fieldSet.fields) default } := by
  obtain ⟨default, found⟩ :=
    OrderEnum.exists_member?_ofIdentifiers entity fieldSet.default_mem
  refine ⟨default, found, ?_⟩
  unfold build
  rw [OrderEnum.build_of_resolve resolved named]
  exact ofOrders_eq_ok_iff.mpr
    ⟨named, (OrderEnum.all_isEncodable_iff_of_resolve resolved entity).mpr encodable,
      default, found, rfl⟩

/-- Nothing else stands in the way of a model. -/
theorem RequestModel.ofOrders_of_not_encodable (resolved : schema.resolve = .ok fieldSet)
    (undescribed : ¬ schema.HasEncodableOrders) (named : entity.canNameType = true)
    (limits : PageLimits) :
    ofOrders entity (.ofIdentifiers entity fieldSet.fields) fieldSet.default limits =
      .error .unusableDescription := by
  have unencodable :
      ¬ (OrderEnum.ofIdentifiers entity fieldSet.fields).entryWires.all
        Text.isEncodable = true :=
    fun described => undescribed
      ((OrderEnum.all_isEncodable_iff_of_resolve resolved entity).mp described)
  unfold ofOrders
  rw [Text.checkTypeName_eq_ok_iff.mpr named]
  exact if_neg unencodable

theorem RequestModel.build_of_not_encodable (resolved : schema.resolve = .ok fieldSet)
    (undescribed : ¬ schema.HasEncodableOrders) (named : entity.canNameType = true)
    (limits : PageLimits) :
    build entity fieldSet limits = .error .unusableDescription := by
  unfold build
  rw [OrderEnum.build_of_resolve resolved named]
  exact ofOrders_of_not_encodable resolved undescribed named limits

end Resolved

namespace Contract

structure IsCoherent (contract : Contract) : Prop where
  resolves : contract.schema.resolve = .ok contract.fieldSet
  enumerates :
    OrderEnum.build contract.entityName contract.fieldSet = .ok contract.orders
  models :
    RequestModel.ofOrders contract.entityName contract.orders
      contract.fieldSet.default contract.requestModel.limits =
        .ok contract.requestModel

theorem ofOrders_eq_ok_iff {schema : EntitySchema} {fieldSet : FieldSet}
    {orders : OrderEnum} {limits : PageLimits} {response? : Option EntityModel}
    {contract : Contract} :
    ofOrders schema fieldSet orders limits response? = .ok contract ↔
      ∃ requestModel,
        RequestModel.ofOrders schema.name orders fieldSet.default limits =
            .ok requestModel ∧
          contract = { schema, fieldSet, orders, requestModel, response? } := by
  unfold ofOrders
  cases RequestModel.ofOrders schema.name orders fieldSet.default limits <;>
    simp [bind, Except.bind, pure, Except.pure, eq_comm]

/-- What is built is the coherent contract of the schema, the limits and the
entity type. -/
theorem build_eq_ok_iff {schema : EntitySchema} {limits : PageLimits}
    {response? : Option EntityModel} {contract : Contract} :
    build schema limits response? = .ok contract ↔
      contract.IsCoherent ∧ contract.schema = schema ∧
        contract.requestModel.limits = limits ∧ contract.response? = response? := by
  have unfolded :
      build schema limits response? = .ok contract ↔
        ∃ fieldSet, schema.resolve = .ok fieldSet ∧
          ∃ orders, OrderEnum.build schema.name fieldSet = .ok orders ∧
            ofOrders schema fieldSet orders limits response? = .ok contract := by
    unfold build
    cases schema.resolve with
    | error fault => simp [Except.mapError, bind, Except.bind]
    | ok fieldSet =>
        simp only [Except.mapError, bind, Except.bind, Except.ok.injEq,
          exists_eq_left']
        cases OrderEnum.build schema.name fieldSet <;> simp
  rw [unfolded]
  constructor
  · rintro ⟨fieldSet, resolved, orders, enumerated, assembled⟩
    obtain ⟨requestModel, modelled, rfl⟩ := ofOrders_eq_ok_iff.mp assembled
    obtain ⟨-, -, member, -, sameModel⟩ := RequestModel.ofOrders_eq_ok_iff.mp modelled
    have sameLimits : requestModel.limits = limits := by
      rw [sameModel]
    refine ⟨⟨resolved, enumerated, ?_⟩, rfl, sameLimits, rfl⟩
    rw [sameLimits]
    exact modelled
  · rintro ⟨coherent, rfl, rfl, rfl⟩
    refine ⟨contract.fieldSet, coherent.resolves, contract.orders,
      coherent.enumerates, ofOrders_eq_ok_iff.mpr ?_⟩
    exact ⟨contract.requestModel, coherent.models, rfl⟩

/-- A schema with a usable name and fields that can be encoded has a contract as soon
as it is resolved. -/
theorem exists_build_of_resolve {schema : EntitySchema} {fieldSet : FieldSet}
    (resolved : schema.resolve = .ok fieldSet)
    (encodable : schema.HasEncodableOrders)
    (named : '\x00' ∉ schema.name.toList) (limits : PageLimits)
    (response? : Option EntityModel) :
    ∃ contract, build schema limits response? = .ok contract := by
  have namable := Text.canNameType_ofString.mpr named
  have enumerated := OrderEnum.build_of_resolve resolved namable
  obtain ⟨default, found⟩ :=
    OrderEnum.exists_member?_ofIdentifiers schema.name fieldSet.default_mem
  refine ⟨{ schema, fieldSet, orders := .ofIdentifiers schema.name fieldSet.fields,
            requestModel :=
              { name := RequestModel.nameFor schema.name, limits
                orderRule :=
                  .among (.ofIdentifiers schema.name fieldSet.fields) default }
            response? }, ?_⟩
  apply build_eq_ok_iff.mpr
  refine ⟨⟨resolved, enumerated, ?_⟩, rfl, rfl, rfl⟩
  exact RequestModel.ofOrders_eq_ok_iff.mpr
    ⟨namable,
      (OrderEnum.all_isEncodable_iff_of_resolve resolved schema.name).mpr encodable,
      default, found, rfl⟩

theorem exists_of_isOk {outcome : Except Failure Contract}
    (succeeded : outcome.isOk = true) : ∃ contract, outcome = .ok contract := by
  cases outcome with
  | error failure => cases succeeded
  | ok contract => exact ⟨contract, rfl⟩

variable {contract : Contract}

theorem columnFor_eq (contract : Contract) (identifier : Text) :
    contract.columnFor identifier =
      match contract.schema.orderableFields.find? (·.identifier == identifier) with
      | some field => .ok field.name
      | none =>
          if identifier = Identifier.createdAt then .ok Identifier.createdAtField
          else
            .error (.unknownKey (.str ("'" ++ identifier ++
              "' is not an order field of " ++ contract.entityName))) :=
  rfl

theorem columnFor_of_find? {identifier : Text} {field : FieldDescriptor}
    (found : contract.schema.orderableFields.find? (·.identifier == identifier) =
      some field) :
    contract.columnFor identifier = .ok field.name := by
  rw [columnFor_eq, found]

namespace IsCoherent

theorem orders_eq (coherent : contract.IsCoherent) :
    contract.orders =
      .ofIdentifiers contract.entityName contract.fieldSet.fields := by
  have enumerated := coherent.enumerates
  have named := OrderEnum.named_of_build coherent.resolves enumerated
  rw [OrderEnum.build_of_resolve coherent.resolves named] at enumerated
  exact (Except.ok.inj enumerated).symm

/-- Contracts are made of schemas whose fields can be encoded. -/
theorem hasEncodableOrders (coherent : contract.IsCoherent) :
    contract.schema.HasEncodableOrders := by
  obtain ⟨-, described, -⟩ := RequestModel.ofOrders_eq_ok_iff.mp coherent.models
  rw [coherent.orders_eq] at described
  exact (OrderEnum.all_isEncodable_iff_of_resolve coherent.resolves _).mp described

theorem exists_identifier_of_mem (coherent : contract.IsCoherent) {member : OrderEntry}
    (present : member ∈ contract.orders.members) :
    ∃ identifier ∈ contract.fieldSet.fields,
      OrderEntry.ofIdentifier identifier = member := by
  have entry : member ∈ contract.orders.entries := (List.mem_filter.mp present).1
  rw [coherent.orders_eq, OrderEnum.ofIdentifiers_entries] at entry
  exact List.mem_map.mp entry

/-- Requests are ordered by a member, and the default names one. -/
theorem exists_default (coherent : contract.IsCoherent) :
    ∃ default, contract.orders.member? contract.fieldSet.default = some default ∧
      contract.requestModel.orderRule = .among contract.orders default := by
  obtain ⟨-, -, default, found, sameModel⟩ :=
    RequestModel.ofOrders_eq_ok_iff.mp coherent.models
  refine ⟨default, found, ?_⟩
  rw [sameModel]

theorem fields_eq (coherent : contract.IsCoherent) :
    contract.fieldSet.fields =
      Identifier.createdAt :: contract.schema.ownFields.map (·.identifier) :=
  (EntitySchema.resolve_eq_ok_iff.mp coherent.resolves).2.2.1

theorem default_eq (coherent : contract.IsCoherent) :
    contract.fieldSet.default =
      contract.schema.defaultField?.elim Identifier.createdAt (·.identifier) :=
  (EntitySchema.resolve_eq_ok_iff.mp coherent.resolves).2.2.2

theorem own_identifiers_nodup (coherent : contract.IsCoherent) :
    (contract.schema.ownFields.map (·.identifier)).Nodup :=
  (EntitySchema.resolve_eq_ok_iff.mp coherent.resolves).2.1

/-- Behind the identifier of a field that is not folded stands that field. -/
theorem columnFor_own (coherent : contract.IsCoherent) {field : FieldDescriptor}
    (own : field ∈ contract.schema.ownFields) :
    contract.columnFor field.identifier = .ok field.name := by
  obtain ⟨orderable, unfolded⟩ := EntitySchema.mem_ownFields_iff.mp own
  obtain ⟨other, found, present, same⟩ :
      ∃ other, contract.schema.orderableFields.find? (·.identifier == field.identifier) =
          some other ∧
        other ∈ contract.schema.orderableFields ∧ other.identifier = field.identifier :=
    exists_find?_eq_some orderable
  have otherOwn : other ∈ contract.schema.ownFields := by
    apply EntitySchema.mem_ownFields_iff.mpr
    exact ⟨present, (FieldDescriptor.isFolded_of_identifier_eq same).trans unfolded⟩
  rw [columnFor_of_find? found,
    List.inj_on_of_nodup_map coherent.own_identifiers_nodup otherOwn own same]

/-- Behind every member stands the name of an orderable field or the creation
time. -/
theorem exists_columnFor (coherent : contract.IsCoherent) {member : OrderEntry}
    (present : member ∈ contract.orders.members) :
    ∃ column, contract.columnFor member.identifier = .ok column ∧
      (column ∈ contract.schema.orderableFields.map (·.name) ∨
        column = Identifier.createdAtField) := by
  obtain ⟨identifier, identified, rfl⟩ := coherent.exists_identifier_of_mem present
  rw [coherent.fields_eq] at identified
  rcases List.mem_cons.mp identified with rfl | own
  · unfold columnFor
    split
    · rename_i field found
      have orderable := List.mem_of_find?_eq_some found
      exact ⟨field.name, rfl, .inl (List.mem_map_of_mem orderable)⟩
    · exact ⟨Identifier.createdAtField, rfl, .inr rfl⟩
  · obtain ⟨field, fieldOwn, rfl⟩ := List.mem_map.mp own
    refine ⟨field.name, coherent.columnFor_own fieldOwn, .inl ?_⟩
    exact List.mem_map_of_mem (EntitySchema.mem_ownFields_iff.mp fieldOwn).1

end IsCoherent

end Contract

end Folio
