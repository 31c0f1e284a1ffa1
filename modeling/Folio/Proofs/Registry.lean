import Folio.Proofs.Contract
import Folio.Registry

/-!
# What a registration does

A registration is refused and leaves the registry alone, or it adds the contract
of its schema under a name that was free.  The settings in force stay the same.
-/

namespace Folio.Registry

variable {registry : Registry} {shared : SharedSettings} {contract : Contract}
  {name : String}

/-! ## Contracts and names -/

theorem eq_iff {other : Registry} :
    registry = other ↔
      registry.settings? = other.settings? ∧ registry.contracts = other.contracts := by
  cases registry
  cases other
  simp

theorem mem_contracts_iff :
    contract ∈ registry.contracts ↔
      registry.find? contract.entityName = some contract := by
  constructor
  · exact find?_eq_some_of_nodup registry.names_nodup
  · exact List.mem_of_find?_eq_some

theorem nodup_contracts : registry.contracts.Nodup :=
  List.Nodup.of_map _ registry.names_nodup

/-- Registries with the same contracts under all names hold the same
contracts. -/
theorem perm_contracts {other : Registry}
    (same : ∀ name, registry.find? name = other.find? name) :
    registry.contracts.Perm other.contracts := by
  rw [List.perm_ext_iff_of_nodup nodup_contracts nodup_contracts]
  intro contract
  rw [mem_contracts_iff, mem_contracts_iff, same]

/-! ## The settings in force -/

def inForce (registry : Registry) (shared : SharedSettings) :
    Except Failure Settings :=
  (registry.settingsFor shared).1

theorem inForce_settingsFor :
    registry.inForce (registry.settingsFor shared).2 = registry.inForce shared := by
  unfold inForce settingsFor SharedSettings.get
  cases registry.settings? with
  | some settings => rfl
  | none =>
      cases known : shared.loaded? with
      | some settings => simp [known]
      | none => cases read : Settings.load shared.environment [] <;> simp [known, read]

/-! ## Registrations -/

/-- A registration is refused, or it adds a contract under a free name. -/
inductive Registration.Extends (registry : Registry) : Registration → Prop
  | refused (after : SharedSettings) (failure : Failure) :
      Extends registry (registry.refused after failure)
  | accepted (after : SharedSettings) (contract : Contract)
      (absent : registry.find? contract.entityName = none) :
      Extends registry
        { outcome := .ok contract
          registry := registry.insert contract absent
          shared := after }

namespace Registration.Extends

variable {registration : Registration}

theorem settings?_eq (extension : Registration.Extends registry registration) :
    registration.registry.settings? = registry.settings? := by
  cases extension <;> rfl

theorem inForce_eq (extension : Registration.Extends registry registration) :
    registration.registry.inForce = registry.inForce := by
  cases extension <;> rfl

/-- The contract of a successful registration comes after the others. -/
theorem contracts_eq (extension : Registration.Extends registry registration) :
    registration.registry.contracts =
      registry.contracts ++ registration.outcome.toOption.toList := by
  cases extension with
  | refused after failure => simp [Registry.refused, Except.toOption]
  | accepted after contract absent => simp [insert, Except.toOption]

end Registration.Extends

theorem accept_of_absent (absent : registry.find? contract.entityName = none) :
    registry.accept shared contract =
      { outcome := .ok contract
        registry := registry.insert contract absent
        shared } := by
  unfold accept
  split
  · rfl
  · rename_i taken
    rw [absent] at taken
    cases taken

theorem accept_extends (registry : Registry) (shared : SharedSettings)
    (contract : Contract) :
    Registration.Extends registry (registry.accept shared contract) := by
  unfold accept
  split
  · rename_i absent
    exact .accepted shared contract absent
  · exact .refused shared _

section Register

variable (registry) (shared) (schema : EntitySchema)
  (response? : Option EntityModel)

theorem registerOrders_extends (fieldSet : FieldSet) (orders : OrderEnum) :
    Registration.Extends registry
      (registry.registerOrders shared schema response? fieldSet orders) := by
  unfold registerOrders
  dsimp only
  split
  · exact .refused _ _
  · split
    · exact .refused _ _
    · exact accept_extends registry _ _

theorem register_extends :
    Registration.Extends registry
      (registry.register shared schema response?) := by
  unfold register
  split
  · exact .refused _ _
  · split
    · exact .refused _ _
    · split
      · exact .refused _ _
      · exact registerOrders_extends registry shared schema response? _ _

theorem registerOrders_shared (fieldSet : FieldSet) (orders : OrderEnum) :
    (registry.registerOrders shared schema response? fieldSet orders).shared =
      (registry.settingsFor shared).2 := by
  unfold registerOrders
  dsimp only
  split
  · rfl
  · split
    · rfl
    · unfold accept
      split <;> rfl

/-- A registration comes to its settings. -/
structure Admits : Prop where
  free : registry.find? schema.name = none
  enumerable : ∃ fieldSet orders, schema.resolve = .ok fieldSet ∧
    OrderEnum.build schema.name fieldSet = .ok orders

end Register

section Admitted

variable {schema : EntitySchema}

theorem register_of_admits (admitted : registry.Admits schema)
    (shared : SharedSettings) (response? : Option EntityModel) :
    ∃ fieldSet orders,
      registry.register shared schema response? =
        registry.registerOrders shared schema response? fieldSet orders := by
  obtain ⟨fieldSet, orders, resolved, enumerated⟩ := admitted.enumerable
  refine ⟨fieldSet, orders, ?_⟩
  unfold register
  rw [admitted.free]
  simp only [resolved, enumerated]

/-- What is not admitted is refused before the settings are asked for. -/
theorem register_of_not_admits (improper : ¬ registry.Admits schema)
    (shared : SharedSettings) (response? : Option EntityModel) :
    ∃ failure,
      registry.register shared schema response? = registry.refused shared failure := by
  unfold register
  split
  · exact ⟨_, rfl⟩
  · rename_i free
    split
    · exact ⟨_, rfl⟩
    · rename_i fieldSet resolved
      split
      · exact ⟨_, rfl⟩
      · rename_i orders enumerated
        exact absurd ⟨free, fieldSet, orders, resolved, enumerated⟩ improper

theorem register_shared_of_admits (admitted : registry.Admits schema)
    (response? : Option EntityModel) :
    (registry.register shared schema response?).shared =
      (registry.settingsFor shared).2 := by
  obtain ⟨fieldSet, orders, reached⟩ := register_of_admits admitted shared response?
  rw [reached, registerOrders_shared]

theorem register_shared_of_not_admits (improper : ¬ registry.Admits schema)
    (response? : Option EntityModel) :
    (registry.register shared schema response?).shared = shared := by
  obtain ⟨failure, refusal⟩ := register_of_not_admits improper shared response?
  rw [refusal]
  rfl

/-- A registration changes the shared settings at most by asking for them. -/
theorem register_shared (registry : Registry) (shared : SharedSettings)
    (schema : EntitySchema) (response? : Option EntityModel) :
    (registry.register shared schema response?).shared = shared ∨
      (registry.register shared schema response?).shared =
        (registry.settingsFor shared).2 := by
  by_cases admitted : registry.Admits schema
  · exact .inr (register_shared_of_admits admitted response?)
  · exact .inl (register_shared_of_not_admits admitted response?)

/-- Without settings there is no registration. -/
theorem register_of_unsettled (admitted : registry.Admits schema)
    (response? : Option EntityModel) {failure : Failure}
    (unsettled : registry.inForce shared = .error failure) :
    registry.register shared schema response? =
      registry.refused (registry.settingsFor shared).2 failure := by
  obtain ⟨fieldSet, orders, reached⟩ := register_of_admits admitted shared response?
  rw [reached]
  unfold registerOrders
  dsimp only
  split
  · rename_i other failed
    rw [inForce, failed] at unsettled
    rw [Except.error.inj unsettled]
  · rename_i settings known
    rw [inForce, known] at unsettled
    cases unsettled

end Admitted

section Outcome

variable {schema : EntitySchema} {response? : Option EntityModel}

theorem registerOrders_outcome (absent : registry.find? schema.name = none)
    (fieldSet : FieldSet) (orders : OrderEnum) :
    (registry.registerOrders shared schema response? fieldSet orders).outcome =
      (registry.inForce shared).bind fun settings =>
        Contract.ofOrders schema fieldSet orders settings.limits response? := by
  unfold registerOrders inForce
  dsimp only
  split
  · rename_i failure unknown
    rw [unknown]
    rfl
  · rename_i settings known
    rw [known]
    split
    · rename_i failure failed
      exact failed.symm
    · rename_i built assembled
      obtain ⟨requestModel, -, rfl⟩ := Contract.ofOrders_eq_ok_iff.mp assembled
      rw [accept_of_absent absent]
      exact assembled.symm

/-- The outcome of a registration.  It depends on nothing but the registry and
the settings in force. -/
theorem register_outcome :
    (registry.register shared schema response?).outcome =
      if (registry.find? schema.name).isSome then
        .error (.fault (.alreadyRegistered schema.name))
      else (do
        let fieldSet ← schema.resolve.mapError .fault
        let orders ← OrderEnum.build schema.name fieldSet
        let settings ← registry.inForce shared
        Contract.ofOrders schema fieldSet orders settings.limits response?) := by
  unfold register
  cases absent : registry.find? schema.name with
  | some present => rfl
  | none =>
      dsimp only
      cases schema.resolve with
      | error fault => rfl
      | ok fieldSet =>
          simp only [Except.mapError, bind, Except.bind]
          cases OrderEnum.build schema.name fieldSet with
          | error failure => rfl
          | ok orders => exact registerOrders_outcome absent fieldSet orders

theorem toOption_eq_some_iff {outcome : Except Failure Contract} :
    outcome.toOption = some contract ↔ outcome = .ok contract := by
  cases outcome <;> simp [Except.toOption]

def builtUnder (settings : Except Failure Settings) (schema : EntitySchema)
    (response? : Option EntityModel) : Option Contract :=
  match settings with
  | .ok settings => (Contract.build schema settings.limits response?).toOption
  | .error _ => none

theorem builtUnder_eq_some_iff {settings : Except Failure Settings} :
    builtUnder settings schema response? = some contract ↔
      ∃ known, settings = .ok known ∧
        Contract.build schema known.limits response? = .ok contract := by
  unfold builtUnder
  cases settings with
  | error failure => simp
  | ok known =>
      simp only [Except.ok.injEq, exists_eq_left']
      exact toOption_eq_some_iff

/-- What is built is the coherent contract of the schema and the entity type. -/
theorem builtUnder_coherent {settings : Except Failure Settings}
    (built : builtUnder settings schema response? = some contract) :
    contract.IsCoherent ∧ contract.schema = schema ∧
      contract.response? = response? := by
  obtain ⟨known, -, succeeded⟩ := builtUnder_eq_some_iff.mp built
  obtain ⟨coherent, sameSchema, -, sameResponse⟩ :=
    Contract.build_eq_ok_iff.mp succeeded
  exact ⟨coherent, sameSchema, sameResponse⟩

/-- A registration succeeds with the contract that is built from the settings in
force, as long as the name is free. -/
theorem register_outcome_eq_ok_iff :
    (registry.register shared schema response?).outcome = .ok contract ↔
      registry.find? schema.name = none ∧
        builtUnder (registry.inForce shared) schema response? = some contract := by
  rw [register_outcome, builtUnder_eq_some_iff]
  cases registry.find? schema.name with
  | some present => simp
  | none =>
      simp only [true_and, Contract.build]
      cases schema.resolve.mapError Failure.fault with
      | error failure => simp [bind, Except.bind]
      | ok fieldSet =>
          simp only [bind, Except.bind]
          cases OrderEnum.build schema.name fieldSet with
          | error failure => simp
          | ok orders => cases registry.inForce shared <;> simp

/-- A name that is taken is refused, whatever the schema. -/
theorem register_outcome_of_taken (taken : registry.find? schema.name = some contract) :
    (registry.register shared schema response?).outcome =
      .error (.fault (.alreadyRegistered schema.name)) := by
  rw [register_outcome, taken, Option.isSome_some, if_pos rfl]

theorem admits_of_outcome
    (succeeded : (registry.register shared schema response?).outcome = .ok contract) :
    registry.Admits schema := by
  obtain ⟨free, built⟩ := register_outcome_eq_ok_iff.mp succeeded
  obtain ⟨coherent, rfl, -⟩ := builtUnder_coherent built
  exact ⟨free, contract.fieldSet, contract.orders, coherent.resolves,
    coherent.enumerates⟩

/-- What is admitted is registered as soon as there are settings, if its fields can be
encoded. -/
theorem exists_outcome_of_admits (admitted : registry.Admits schema)
    (encodable : schema.HasEncodableOrders) (response? : Option EntityModel)
    {settings : Settings}
    (known : registry.inForce shared = .ok settings) :
    ∃ contract,
      (registry.register shared schema response?).outcome = .ok contract := by
  obtain ⟨fieldSet, orders, resolved, enumerated⟩ := admitted.enumerable
  have named := Text.canNameType_ofString.mp (OrderEnum.named_of_build resolved enumerated)
  obtain ⟨contract, built⟩ := Contract.exists_build_of_resolve resolved encodable named
    settings.limits response?
  refine ⟨contract, register_outcome_eq_ok_iff.mpr ⟨admitted.free, ?_⟩⟩
  exact builtUnder_eq_some_iff.mpr ⟨settings, known, built⟩

theorem contracts_register :
    (registry.register shared schema response?).registry.contracts =
      registry.contracts ++
        (registry.register shared schema response?).outcome.toOption.toList :=
  (register_extends registry shared schema response?).contracts_eq

theorem settings?_register :
    (registry.register shared schema response?).registry.settings? =
      registry.settings? :=
  (register_extends registry shared schema response?).settings?_eq

theorem inForce_register :
    (registry.register shared schema response?).registry.inForce
        (registry.register shared schema response?).shared =
      registry.inForce shared := by
  rw [(register_extends registry shared schema response?).inForce_eq]
  rcases register_shared registry shared schema response? with same | asked
  · rw [same]
  · rw [asked, inForce_settingsFor]

end Outcome

end Folio.Registry
