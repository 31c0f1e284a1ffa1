import Folio.Proofs.PageRequest
import Folio.Proofs.Registry

/-!
# Resolvable schemas

A schema that can be resolved can be registered as long as the fields to order by can
be encoded, and nothing goes wrong later: its identifiers are enumerated, the default
names a member, and every accepted request is ordered by a member behind which a column
stands.
-/

namespace Folio

/-- The request is ordered by a member of the contract, and behind the member
stands an orderable field or the creation time. -/
def Contract.FindsColumn (contract : Contract) (request : PageRequest) : Prop :=
  ∃ member ∈ contract.orders.members, request.orderMember? = some member ∧
    ∃ column, contract.columnFor member.identifier = .ok column ∧
      (column ∈ contract.schema.orderableFields.map (·.name) ∨
        column = Identifier.createdAtField)

/-- What registering a schema comes to. -/
structure Registry.Registration.Serves (registration : Registry.Registration)
    (schema : EntitySchema) : Prop where
  /-- Exactly the resolvable schemas are registered whose fields to order by can be
  encoded. -/
  registered :
    (∃ contract, registration.outcome = .ok contract) ↔
      (∃ fieldSet, schema.resolve = .ok fieldSet) ∧ schema.HasEncodableOrders
  /-- What stops a registration is what stops the schema from being resolved, or a
  field that cannot be encoded. -/
  refused : ∀ failure, registration.outcome = .error failure →
    (∃ fault, schema.resolve = .error fault ∧ failure = .fault fault) ∨
      ¬ schema.HasEncodableOrders ∧ failure = .unusableDescription
  /-- The identifiers of the schema are enumerated and the default is a member.  There
  is a model of requests under all limits, as long as the fields can be encoded. -/
  modelled : ∀ fieldSet, schema.resolve = .ok fieldSet →
    ∃ orders default,
      OrderEnum.build schema.name fieldSet = .ok orders ∧
        orders.member? fieldSet.default = some default ∧
        ∀ limits,
          (schema.HasEncodableOrders →
            ∃ model, RequestModel.build schema.name fieldSet limits = .ok model ∧
              model.orderRule = .among orders default) ∧
          (¬ schema.HasEncodableOrders →
            RequestModel.build schema.name fieldSet limits =
              .error .unusableDescription)
  /-- The contract is that of the schema. -/
  own : ∀ contract, registration.outcome = .ok contract → contract.schema = schema
  /-- Every query that is accepted finds its column. -/
  queried : ∀ contract, registration.outcome = .ok contract →
    ∀ query request, PageRequest.decode contract.requestModel query = .ok request →
      contract.FindsColumn request
  /-- So does every request that is made from keywords. -/
  constructed : ∀ contract, registration.outcome = .ok contract →
    ∀ keywords request,
      PageRequest.construct contract.requestModel keywords = .ok request →
      contract.FindsColumn request

/-- Wherever an accepted request comes from, it finds its column. -/
theorem Contract.IsCoherent.findsColumn {contract : Contract}
    (coherent : contract.IsCoherent) {source : PageRequest.Source}
    {request : PageRequest}
    (accepted : PageRequest.read contract.requestModel source = .ok request) :
    contract.FindsColumn request := by
  obtain ⟨default, named, enumerated⟩ := coherent.exists_default
  obtain ⟨member, present, ordered⟩ := PageRequest.exists_orderMember? enumerated
    (OrderEnum.mem_members_of_member? named) accepted
  exact ⟨member, present, ordered, coherent.exists_columnFor present⟩

namespace Registry

variable {registry : Registry} {shared : SharedSettings} {schema : EntitySchema}
  {response? : Option EntityModel}

/-- The contract of a resolvable schema is registered. -/
theorem exists_register_of_resolve {fieldSet : FieldSet} {settings : Settings}
    (resolved : schema.resolve = .ok fieldSet)
    (encodable : schema.HasEncodableOrders)
    (named : '\x00' ∉ schema.name.toList)
    (free : registry.find? schema.name = none)
    (known : registry.inForce shared = .ok settings) :
    ∃ contract, (registry.register shared schema response?).outcome = .ok contract := by
  obtain ⟨contract, built⟩ :=
    Contract.exists_build_of_resolve resolved encodable named settings.limits response?
  refine ⟨contract, register_outcome_eq_ok_iff.mpr ⟨free, ?_⟩⟩
  exact builtUnder_eq_some_iff.mpr ⟨settings, known, built⟩

theorem register_outcome_of_conflict {fault : Fault}
    (conflict : schema.resolve = .error fault)
    (free : registry.find? schema.name = none) :
    (registry.register shared schema response?).outcome = .error (.fault fault) := by
  rw [register_outcome, free, conflict]
  rfl

theorem register_outcome_of_not_encodable {fieldSet : FieldSet} {settings : Settings}
    (resolved : schema.resolve = .ok fieldSet)
    (undescribed : ¬ schema.HasEncodableOrders)
    (named : '\x00' ∉ schema.name.toList)
    (free : registry.find? schema.name = none)
    (known : registry.inForce shared = .ok settings) :
    (registry.register shared schema response?).outcome = .error .unusableDescription := by
  have namable := Text.canNameType_ofString.mpr named
  have enumerated := OrderEnum.build_of_resolve resolved namable
  have unmodelled := RequestModel.ofOrders_of_not_encodable resolved undescribed namable
    settings.limits
  rw [register_outcome, free, resolved]
  simp only [Option.isSome_none, Bool.false_eq_true, ↓reduceIte, Except.mapError, bind,
    Except.bind, enumerated, known, Contract.ofOrders, unmodelled]

/-- Resolvable schemas can be registered if their fields to order by can be encoded,
and their contracts serve every request that they accept. -/
theorem register_serves {settings : Settings}
    (named : '\x00' ∉ schema.name.toList)
    (free : registry.find? schema.name = none)
    (known : registry.inForce shared = .ok settings) :
    (registry.register shared schema response?).Serves schema := by
  have coherent : ∀ contract,
      (registry.register shared schema response?).outcome = .ok contract →
        contract.IsCoherent ∧ contract.schema = schema := by
    intro contract succeeded
    obtain ⟨-, built⟩ := register_outcome_eq_ok_iff.mp succeeded
    obtain ⟨holds, sameSchema, -⟩ := builtUnder_coherent built
    exact ⟨holds, sameSchema⟩
  have namable := Text.canNameType_ofString.mpr named
  constructor
  case registered =>
    constructor
    · rintro ⟨contract, succeeded⟩
      obtain ⟨holds, rfl⟩ := coherent contract succeeded
      exact ⟨⟨contract.fieldSet, holds.resolves⟩, holds.hasEncodableOrders⟩
    · rintro ⟨⟨fieldSet, resolved⟩, encodable⟩
      exact exists_register_of_resolve resolved encodable named free known
  case refused =>
    intro failure failed
    cases resolved : schema.resolve with
    | error fault =>
        rw [register_outcome_of_conflict resolved free] at failed
        exact .inl ⟨fault, rfl, (Except.error.inj failed).symm⟩
    | ok fieldSet =>
        refine .inr ?_
        by_cases encodable : schema.HasEncodableOrders
        · obtain ⟨contract, succeeded⟩ :
              ∃ contract,
                (registry.register shared schema response?).outcome = .ok contract :=
            exists_register_of_resolve resolved encodable named free known
          rw [failed] at succeeded
          cases succeeded
        · rw [register_outcome_of_not_encodable resolved encodable named free known]
            at failed
          exact ⟨encodable, (Except.error.inj failed).symm⟩
  case modelled =>
    intro fieldSet resolved
    obtain ⟨default, found⟩ :=
      OrderEnum.exists_member?_ofIdentifiers schema.name fieldSet.default_mem
    refine ⟨_, default, OrderEnum.build_of_resolve resolved namable, found, ?_⟩
    intro limits
    constructor
    · intro encodable
      obtain ⟨other, otherFound, built⟩ :=
        RequestModel.exists_build_of_resolve resolved encodable namable limits
      rw [found, Option.some.injEq] at otherFound
      exact ⟨_, built, by rw [otherFound]⟩
    · intro undescribed
      exact RequestModel.build_of_not_encodable resolved undescribed namable limits
  case own =>
    intro contract succeeded
    exact (coherent contract succeeded).2
  case queried =>
    intro contract succeeded query request accepted
    apply (coherent contract succeeded).1.findsColumn
    exact PageRequest.decode_eq_ok_iff.mp accepted
  case constructed =>
    intro contract succeeded keywords request accepted
    exact (coherent contract succeeded).1.findsColumn accepted

/-- A measure whose default order is another name of its first field. -/
def kelvinSchema : EntitySchema where
  name := "Measure"
  fields := [.make "k" true false, .make "\u212a" true true]
  name_nonempty := by decide
  names_nodup := by decide
  one_default := by decide

/-- The measure is served, although its default is no member of its own. -/
theorem kelvinSchema_serves :
    '\x00' ∉ kelvinSchema.name.toList ∧
      (empty (some .standard)).find? kelvinSchema.name = none ∧
      (empty (some .standard)).inForce .initial = .ok .standard ∧
      ((empty (some .standard)).register .initial kelvinSchema none).Serves
        kelvinSchema := by
  have named : '\x00' ∉ kelvinSchema.name.toList := by
    decide
  exact ⟨named, rfl, rfl, register_serves named rfl rfl⟩

/-- A gauge with a field that holds half of a surrogate pair. -/
def halvedSchema : EntitySchema where
  name := "Gauge"
  fields := [.make (.ofList [.ofNat 0xd83d, .ofChar 'x']) true false]
  name_nonempty := by decide
  names_nodup := by decide
  one_default := by decide

/-- The gauge is resolved, but not registered. -/
theorem halvedSchema_unregistered :
    (∃ fieldSet, halvedSchema.resolve = .ok fieldSet) ∧
      '\x00' ∉ halvedSchema.name.toList ∧
      (empty (some .standard)).find? halvedSchema.name = none ∧
      (empty (some .standard)).inForce .initial = .ok .standard ∧
      ((empty (some .standard)).register .initial halvedSchema none).outcome =
        .error .unusableDescription := by
  have named : '\x00' ∉ halvedSchema.name.toList := by
    decide
  have undescribed : ¬ halvedSchema.HasEncodableOrders := by
    decide
  have resolves : halvedSchema.resolve.isOk = true := by
    decide +kernel
  cases resolved : halvedSchema.resolve with
  | error fault =>
      rw [resolved] at resolves
      cases resolves
  | ok fieldSet =>
      exact ⟨⟨fieldSet, rfl⟩, named, rfl, rfl,
        register_outcome_of_not_encodable resolved undescribed named rfl rfl⟩

end Registry

end Folio
