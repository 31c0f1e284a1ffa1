import Folio.Proofs.Registry
import Mathlib.Data.List.Dedup

/-!
# Histories of a registry

A history is a list of steps that were taken one after the other.  What a
registry holds under a name is decided by the steps that register that name: the
first of them that succeeds.  A step that fails leaves no trace.
-/

namespace Folio

/-- A registry, with the shared settings that it may ask for. -/
structure RegistryState where
  registry : Registry
  shared : SharedSettings

/-- What can be asked of a registry. -/
inductive RegistryStep
  | register (schema : EntitySchema) (response? : Option EntityModel)
  | registerModel (model : EntityModel) (name? : Option Text)
  | get (key : Json)
  | contains (key : Json)
  | size

inductive RegistryAnswer
  | contract (contract : Contract)
  | flag (present : Bool)
  | number (count : Nat)

namespace RegistryState

def inForce (state : RegistryState) : Except Failure Settings :=
  state.registry.inForce state.shared

def find? (state : RegistryState) (name : String) : Option Contract :=
  state.registry.find? name

def ofRegistration (registration : Registry.Registration) : RegistryState where
  registry := registration.registry
  shared := registration.shared

end RegistryState

namespace RegistryStep

/-- What a step answers, and the state after it. -/
def perform (state : RegistryState) :
    RegistryStep → Except Failure RegistryAnswer × RegistryState
  | .register schema response? =>
      let registration := state.registry.register state.shared schema response?
      (registration.outcome.map .contract, .ofRegistration registration)
  | .registerModel model name? =>
      let registration := state.registry.registerModel state.shared model name?
      (registration.outcome.map .contract, .ofRegistration registration)
  | .get key => ((state.registry.getRaw key).map .contract, state)
  | .contains key => ((state.registry.containsRaw key).map .flag, state)
  | .size => (.ok (.number state.registry.size), state)

def answer (state : RegistryState) (step : RegistryStep) :
    Except Failure RegistryAnswer :=
  (step.perform state).1

def next (state : RegistryState) (step : RegistryStep) : RegistryState :=
  (step.perform state).2

/-- The schema that a step asks to register, with the type of its entities. -/
def request? : RegistryStep → Option (EntitySchema × Option EntityModel)
  | .register schema response? => some (schema, response?)
  | .registerModel model name? =>
      (model.schema name?).toOption.map fun schema => (schema, some model)
  | .get _ => none
  | .contains _ => none
  | .size => none

def target? (step : RegistryStep) : Option String :=
  step.request?.map fun request => request.1.name

/-- The contract that a step asks for, under these settings. -/
def built? (settings : Except Failure Settings) (step : RegistryStep) :
    Option Contract :=
  step.request?.bind fun request => Registry.builtUnder settings request.1 request.2

/-- The contract that a step adds: a step that registers answers with it. -/
def gained? (state : RegistryState) (step : RegistryStep) : Option Contract :=
  match step.request?, step.answer state with
  | some _, .ok (.contract contract) => some contract
  | _, _ => none

end RegistryStep

namespace RegistryState

def run (state : RegistryState) (steps : List RegistryStep) : RegistryState :=
  steps.foldl RegistryStep.next state

def answers (state : RegistryState) :
    List RegistryStep → List (Except Failure RegistryAnswer)
  | [] => []
  | step :: later => step.answer state :: (step.next state).answers later

/-- The contracts that a history adds, in order. -/
def gained (state : RegistryState) : List RegistryStep → List Contract
  | [] => []
  | step :: later => (step.gained? state).toList ++ (step.next state).gained later

end RegistryState

/-! ## One step -/

namespace RegistryStep

variable {state other : RegistryState} {step : RegistryStep}
  {schema : EntitySchema} {response? : Option EntityModel} {contract : Contract}

theorem perform_of_request (asked : step.request? = some (schema, response?)) :
    step.perform state =
      ((state.registry.register state.shared schema response?).outcome.map .contract,
        .ofRegistration (state.registry.register state.shared schema response?)) := by
  cases step with
  | register ownSchema ownResponse? =>
      cases asked
      rfl
  | registerModel model name? =>
      cases derived : model.schema name? with
      | error issues => simp [request?, derived, Except.toOption] at asked
      | ok ownSchema =>
          simp only [request?, derived, Except.toOption, Option.map_some,
            Option.some.injEq, Prod.mk.injEq] at asked
          obtain ⟨rfl, rfl⟩ := asked
          simp [perform, Registry.registerModel, derived]
  | get key => cases asked
  | contains key => cases asked
  | size => cases asked

/-- A step that asks for none changes nothing. -/
theorem next_of_no_request (idle : step.request? = none) : step.next state = state := by
  cases step with
  | register ownSchema ownResponse? => cases idle
  | registerModel model name? =>
      cases derived : model.schema name? with
      | error issues =>
          simp [next, perform, Registry.registerModel, derived, Registry.refused,
            RegistryState.ofRegistration]
      | ok ownSchema => simp [request?, derived, Except.toOption] at idle
  | get key => rfl
  | contains key => rfl
  | size => rfl

theorem answer_of_request (asked : step.request? = some (schema, response?)) :
    step.answer state =
      (state.registry.register state.shared schema response?).outcome.map
        .contract := by
  rw [answer, perform_of_request asked]

theorem next_of_request (asked : step.request? = some (schema, response?)) :
    step.next state =
      .ofRegistration (state.registry.register state.shared schema response?) := by
  rw [next, perform_of_request asked]

theorem gained?_of_no_request (idle : step.request? = none) :
    step.gained? state = none := by
  rw [gained?, idle]

theorem gained?_of_request (asked : step.request? = some (schema, response?)) :
    step.gained? state =
      (state.registry.register state.shared schema response?).outcome.toOption := by
  rw [gained?, asked, answer_of_request asked]
  cases (state.registry.register state.shared schema response?).outcome <;> rfl

theorem inForce_next : (step.next state).inForce = state.inForce := by
  cases asked : step.request? with
  | none => rw [next_of_no_request asked]
  | some request =>
      rw [next_of_request asked]
      exact Registry.inForce_register

theorem settings?_next :
    (step.next state).registry.settings? = state.registry.settings? := by
  cases asked : step.request? with
  | none => rw [next_of_no_request asked]
  | some request =>
      rw [next_of_request asked]
      exact Registry.settings?_register

/-- The contract that a step adds comes after the others. -/
theorem contracts_next :
    (step.next state).registry.contracts =
      state.registry.contracts ++ (step.gained? state).toList := by
  cases asked : step.request? with
  | none => simp [next_of_no_request asked, gained?_of_no_request asked]
  | some request =>
      rw [next_of_request asked, gained?_of_request asked]
      exact Registry.contracts_register

/-- A step adds the contract that it asks for, if the name is free. -/
theorem gained?_eq_some_iff :
    step.gained? state = some contract ↔
      step.built? state.inForce = some contract ∧
        state.find? contract.entityName = none := by
  cases asked : step.request? with
  | none => simp [gained?_of_no_request asked, built?, asked]
  | some request =>
      rw [gained?_of_request asked, built?, asked, Option.bind_some,
        Registry.toOption_eq_some_iff, Registry.register_outcome_eq_ok_iff, and_comm]
      apply and_congr_right
      intro built
      have sameSchema := (Registry.builtUnder_coherent built).2.1
      rw [Contract.entityName, sameSchema]
      rfl

theorem target?_eq_some_iff {name : String} :
    step.target? = some name ↔
      ∃ schema response?, step.request? = some (schema, response?) ∧
        schema.name = name := by
  simp [target?, Option.map_eq_some_iff]

/-- A step that names a contract fails or adds a contract of this name. -/
theorem fails_or_gains {name : String} (targeted : step.target? = some name) :
    (∃ failure, step.answer state = .error failure) ∨
      ∃ contract, step.answer state = .ok (.contract contract) ∧
        step.gained? state = some contract ∧ contract.entityName = name := by
  obtain ⟨schema, response?, asked, rfl⟩ := target?_eq_some_iff.mp targeted
  rw [answer_of_request asked]
  cases succeeded : (state.registry.register state.shared schema response?).outcome with
  | error failure => exact .inl ⟨failure, rfl⟩
  | ok contract =>
      right
      obtain ⟨-, built⟩ := Registry.register_outcome_eq_ok_iff.mp succeeded
      have sameSchema := (Registry.builtUnder_coherent built).2.1
      refine ⟨contract, rfl, ?_, congrArg EntitySchema.name sameSchema⟩
      rw [gained?_of_request asked, succeeded]
      rfl

theorem answer_of_gained? (added : step.gained? state = some contract) :
    step.answer state = .ok (.contract contract) := by
  unfold gained? at added
  split at added
  · rename_i answered
    rw [answered, Option.some.inj added]
  · cases added

/-- What a step adds is coherent, and of the schema and the entity type that it
asks to register. -/
theorem gained?_coherent (added : step.gained? state = some contract) :
    contract.IsCoherent ∧
      step.request? = some (contract.schema, contract.response?) := by
  obtain ⟨built, -⟩ := gained?_eq_some_iff.mp added
  obtain ⟨⟨schema, response?⟩, asked, under⟩ := Option.bind_eq_some_iff.mp built
  obtain ⟨coherent, rfl, rfl⟩ := Registry.builtUnder_coherent under
  exact ⟨coherent, asked⟩

theorem named_of_built? {settings : Except Failure Settings}
    (built : step.built? settings = some contract) :
    step.target? = some contract.entityName := by
  obtain ⟨⟨schema, response?⟩, asked, under⟩ := Option.bind_eq_some_iff.mp built
  obtain ⟨-, rfl, -⟩ := Registry.builtUnder_coherent under
  exact target?_eq_some_iff.mpr ⟨_, _, asked, rfl⟩

/-- After a step, the contract under a name is the one that was there, or else
the one that the step asks for. -/
theorem find?_next (name : String) :
    (step.next state).find? name =
      (state.find? name).or
        ((step.built? state.inForce).filter (·.entityName == name)) := by
  have appended :
      (step.next state).find? name =
        (state.find? name).or
          ((step.gained? state).filter (·.entityName == name)) := by
    rw [RegistryState.find?, Registry.find?, contracts_next, List.find?_append,
      RegistryState.find?, Registry.find?]
    congr 1
    cases step.gained? state with
    | none => rfl
    | some contract =>
        cases named : contract.entityName == name <;> simp [named, Option.filter]
  rw [appended]
  cases found : state.find? name with
  | some present => rfl
  | none =>
      rw [Option.none_or, Option.none_or]
      apply Option.ext
      intro contract
      rw [Option.filter_eq_some_iff, Option.filter_eq_some_iff, gained?_eq_some_iff]
      constructor
      · rintro ⟨⟨built, -⟩, named⟩
        exact ⟨built, named⟩
      · rintro ⟨built, named⟩
        rw [beq_iff_eq] at named
        exact ⟨⟨built, named ▸ found⟩, by simpa using named⟩

/-- What is found after a step under a new name, the step has added. -/
theorem gained?_of_find?_next {name : String} (absent : state.find? name = none) :
    (step.next state).find? name = some contract ↔
      step.gained? state = some contract ∧ contract.entityName = name := by
  rw [find?_next, absent, Option.none_or, Option.filter_eq_some_iff, beq_iff_eq,
    gained?_eq_some_iff]
  constructor
  · rintro ⟨built, rfl⟩
    exact ⟨⟨built, absent⟩, rfl⟩
  · rintro ⟨⟨built, -⟩, rfl⟩
    exact ⟨built, rfl⟩

theorem registry_next_of_error {failure : Failure}
    (failed : step.answer state = .error failure) :
    (step.next state).registry = state.registry := by
  cases asked : step.request? with
  | none => rw [next_of_no_request asked]
  | some request =>
      have nothing : step.gained? state = none := by
        rw [gained?, asked, failed]
      rw [Registry.eq_iff, contracts_next, nothing]
      exact ⟨settings?_next, List.append_nil _⟩

end RegistryStep

/-! ## Whole histories -/

namespace RegistryState

variable {state other : RegistryState}

structure Agrees (state other : RegistryState) : Prop where
  sameRegistry : state.registry = other.registry
  sameSettings : state.inForce = other.inForce

namespace Agrees

theorem answer_eq (agrees : state.Agrees other) (step : RegistryStep) :
    step.answer state = step.answer other := by
  cases asked : step.request? with
  | none =>
      cases step with
      | register schema response? => cases asked
      | registerModel model name? =>
          cases derived : model.schema name? with
          | error issues =>
              simp [RegistryStep.answer, RegistryStep.perform,
                Registry.registerModel, derived, Registry.refused]
          | ok schema =>
              simp [RegistryStep.request?, derived, Except.toOption] at asked
      | get key => simp [RegistryStep.answer, RegistryStep.perform, agrees.sameRegistry]
      | contains key =>
          simp [RegistryStep.answer, RegistryStep.perform, agrees.sameRegistry]
      | size => simp [RegistryStep.answer, RegistryStep.perform, agrees.sameRegistry]
  | some request =>
      have settings := agrees.sameSettings
      unfold inForce at settings
      rw [RegistryStep.answer_of_request asked, RegistryStep.answer_of_request asked,
        Registry.register_outcome, Registry.register_outcome, settings,
        agrees.sameRegistry]

theorem next (agrees : state.Agrees other) (step : RegistryStep) :
    (step.next state).Agrees (step.next other) where
  sameRegistry := by
    rw [Registry.eq_iff, RegistryStep.settings?_next, RegistryStep.settings?_next,
      RegistryStep.contracts_next, RegistryStep.contracts_next, agrees.sameRegistry,
      RegistryStep.gained?, RegistryStep.gained?, agrees.answer_eq step]
    exact ⟨rfl, rfl⟩
  sameSettings := by
    rw [RegistryStep.inForce_next, RegistryStep.inForce_next, agrees.sameSettings]

theorem answers_eq (agrees : state.Agrees other) (steps : List RegistryStep) :
    state.answers steps = other.answers steps := by
  induction steps generalizing state other with
  | nil => rfl
  | cons step later inductionHypothesis =>
      rw [answers, answers, agrees.answer_eq step, inductionHypothesis (agrees.next step)]

theorem of_error {step : RegistryStep} {failure : Failure}
    (failed : step.answer state = .error failure) :
    (step.next state).Agrees state where
  sameRegistry := RegistryStep.registry_next_of_error failed
  sameSettings := RegistryStep.inForce_next

end Agrees

theorem run_cons (step : RegistryStep) (later : List RegistryStep) :
    state.run (step :: later) = (step.next state).run later := rfl

theorem run_append (earlier later : List RegistryStep) :
    state.run (earlier ++ later) = (state.run earlier).run later :=
  List.foldl_append

theorem inForce_run (steps : List RegistryStep) :
    (state.run steps).inForce = state.inForce := by
  induction steps generalizing state with
  | nil => rfl
  | cons step later inductionHypothesis =>
      rw [run_cons, inductionHypothesis, RegistryStep.inForce_next]

/-- A history adds its contracts after those that were there. -/
theorem contracts_run (steps : List RegistryStep) :
    (state.run steps).registry.contracts =
      state.registry.contracts ++ state.gained steps := by
  induction steps generalizing state with
  | nil => exact (List.append_nil _).symm
  | cons step later inductionHypothesis =>
      rw [run_cons, inductionHypothesis, RegistryStep.contracts_next, gained,
        List.append_assoc]

/-- After a history, the contract under a name is the one that was there, or
else the first one that a step asks for. -/
theorem find?_run (steps : List RegistryStep) (name : String) :
    (state.run steps).find? name =
      (state.find? name).or
        ((steps.filterMap (·.built? state.inForce)).find? (·.entityName == name)) := by
  induction steps generalizing state with
  | nil => simp [run]
  | cons step later inductionHypothesis =>
      rw [run_cons, inductionHypothesis, RegistryStep.find?_next,
        RegistryStep.inForce_next, Option.or_assoc, List.filterMap_cons]
      cases step.built? state.inForce with
      | none => rfl
      | some contract =>
          cases named : contract.entityName == name <;> simp [named, Option.filter]

theorem find?_run_of_some {name : String} {contract : Contract}
    (found : state.find? name = some contract) (steps : List RegistryStep) :
    (state.run steps).find? name = some contract := by
  rw [find?_run, found, Option.some_or]

/-- What is found under a new name was added by the first step for that name
that succeeded. -/
theorem exists_first_of_find?_run {name : String} {contract : Contract}
    (absent : state.find? name = none) (steps : List RegistryStep)
    (found : (state.run steps).find? name = some contract) :
    ∃ earlier step later, steps = earlier ++ step :: later ∧
      step.answer (state.run earlier) = .ok (.contract contract) ∧
      step.gained? (state.run earlier) = some contract ∧
      contract.entityName = name ∧
      ∀ before other after, earlier = before ++ other :: after →
        other.target? = some name →
        ∃ failure, other.answer (state.run before) = .error failure := by
  induction steps generalizing state with
  | nil =>
      rw [run, List.foldl_nil, absent] at found
      cases found
  | cons step later inductionHypothesis =>
      cases present : (step.next state).find? name with
      | some added =>
          rw [run_cons, find?_run_of_some present] at found
          obtain rfl := Option.some.inj found
          obtain ⟨gain, named⟩ := (RegistryStep.gained?_of_find?_next absent).mp present
          refine ⟨[], step, later, rfl, RegistryStep.answer_of_gained? gain, gain,
            named, ?_⟩
          intro before other after split
          cases List.nil_eq_append_iff.mp split |>.2
      | none =>
          obtain ⟨earlier, first, rest, rfl, answered, gain, named, failing⟩ :=
            inductionHypothesis present found
          refine ⟨step :: earlier, first, rest, rfl, answered, gain, named, ?_⟩
          intro before other after split targeted
          rcases List.cons_eq_append_iff.mp split with ⟨rfl, same⟩ | ⟨tail, rfl, same⟩
          · obtain ⟨rfl, -⟩ := List.cons.inj same
            rcases RegistryStep.fails_or_gains targeted with failed | ⟨other, -, lost⟩
            · exact failed
            · rw [(RegistryStep.gained?_of_find?_next absent).mpr lost] at present
              cases present
          · exact failing tail other after same targeted

/-- Only the steps for a name decide what is found under it. -/
theorem find?_built_of_filter (settings : Except Failure Settings) (name : String)
    (steps : List RegistryStep) :
    (steps.filterMap (·.built? settings)).find? (·.entityName == name) =
      ((steps.filter (·.target? == some name)).filterMap
        (·.built? settings)).find? (·.entityName == name) := by
  rw [List.find?_filterMap, List.find?_filterMap, List.find?_filter]
  congr 2
  funext step
  cases built : step.built? settings with
  | none => simp
  | some contract =>
      rw [RegistryStep.named_of_built? built]
      by_cases named : contract.entityName = name <;> simp [named]

theorem find?_next_of_answer {step : RegistryStep} {name : String}
    {contract : Contract} (targeted : step.target? = some name)
    (answered : step.answer state = .ok (.contract contract)) :
    (step.next state).find? name = some contract := by
  rcases RegistryStep.fails_or_gains targeted with ⟨failure, failed⟩ |
    ⟨added, succeeded, gain, named⟩
  · rw [answered] at failed
    cases failed
  · rw [answered] at succeeded
    cases succeeded
    have absent : state.find? name = none :=
      named ▸ (RegistryStep.gained?_eq_some_iff.mp gain).2
    exact (RegistryStep.gained?_of_find?_next absent).mpr ⟨gain, named⟩

theorem answer_get_iff {name : String} {contract : Contract} :
    RegistryStep.answer state (.get (.str name)) = .ok (.contract contract) ↔
      state.find? name = some contract := by
  simp only [RegistryStep.answer, RegistryStep.perform, Registry.getRaw, Registry.get,
    Text.toString?_ofString, find?]
  cases state.registry.find? name <;> simp [Except.map]

theorem answer_contains_iff {key : Json} :
    RegistryStep.answer state (.contains key) = .ok (.flag true) ↔
      ∃ contract, RegistryStep.answer state (.get key) = .ok (.contract contract) := by
  simp only [RegistryStep.answer, RegistryStep.perform]
  cases key with
  | str name =>
      simp only [Registry.containsRaw, Registry.getRaw]
      cases name.toString? with
      | none => simp [Except.map]
      | some string =>
          simp only [Option.map_some, Option.getD_some, Registry.contains, Registry.get]
          cases state.registry.find? string <;> simp [Except.map]
  | _ => simp [Registry.containsRaw, Registry.getRaw, Except.map]

structure Lawful (start : RegistryState) : Prop where
  /-- What is found under a name was built by the first step for this name that
  succeeded. -/
  first : ∀ (steps : List RegistryStep) (name : String) (contract : Contract),
    (start.run steps).find? name = some contract →
    ∃ earlier step later, steps = earlier ++ step :: later ∧
      step.target? = some name ∧
      step.answer (start.run earlier) = .ok (.contract contract) ∧
      step.request? = some (contract.schema, contract.response?) ∧
      ∀ before other after, earlier = before ++ other :: after →
        other.target? = some name →
        ∃ failure, other.answer (start.run before) = .error failure
  /-- A step that succeeds leaves its contract under its name. -/
  stored : ∀ (steps : List RegistryStep) (step : RegistryStep) (name : String)
    (contract : Contract), step.target? = some name →
    step.answer (start.run steps) = .ok (.contract contract) →
    (start.run (steps ++ [step])).find? name = some contract
  /-- What is found under a name never changes. -/
  lasting : ∀ (steps later : List RegistryStep) (name : String)
    (contract : Contract),
    (start.run steps).find? name = some contract →
    (start.run (steps ++ later)).find? name = some contract
  /-- What is found has the name and holds together. -/
  coherent : ∀ (steps : List RegistryStep) (name : String) (contract : Contract),
    (start.run steps).find? name = some contract →
    contract.entityName = name ∧
      contract.schema.resolve = .ok contract.fieldSet ∧
      OrderEnum.build name contract.fieldSet = .ok contract.orders ∧
      contract.requestModel.orders? = some contract.orders
  /-- A name that is taken is refused, whatever the schema. -/
  taken : ∀ (steps : List RegistryStep) (step : RegistryStep)
    (schema : EntitySchema) (response? : Option EntityModel) (present : Contract),
    step.request? = some (schema, response?) →
    (start.run steps).find? schema.name = some present →
    step.answer (start.run steps) = .error (.fault (.alreadyRegistered schema.name))
  /-- A step that fails leaves the registry as it was, and whatever follows is as
  without it. -/
  traceless : ∀ (steps : List RegistryStep) (step : RegistryStep)
    (failure : Failure),
    step.answer (start.run steps) = .error failure →
    (start.run (steps ++ [step])).registry = (start.run steps).registry ∧
      ∀ later, (start.run (steps ++ [step])).answers later =
        (start.run steps).answers later
  /-- A name that is not taken can be registered. -/
  available : ∀ (steps : List RegistryStep) (step : RegistryStep)
    (schema : EntitySchema) (response? : Option EntityModel) (settings : Settings)
    (contract : Contract),
    step.request? = some (schema, response?) →
    (start.run steps).find? schema.name = none →
    start.inForce = .ok settings →
    Contract.build schema settings.limits response? = .ok contract →
    step.answer (start.run steps) = .ok (.contract contract)
  /-- What is found under a name is what one gets. -/
  got : ∀ (steps : List RegistryStep) (name : String) (contract : Contract),
    RegistryStep.answer (start.run steps) (.get (.str name)) =
        .ok (.contract contract) ↔
      (start.run steps).find? name = some contract
  /-- A registry contains the names under which one gets a contract. -/
  membership : ∀ (steps : List RegistryStep) (key : Json),
    RegistryStep.answer (start.run steps) (.contains key) = .ok (.flag true) ↔
      ∃ contract, RegistryStep.answer (start.run steps) (.get key) =
        .ok (.contract contract)
  /-- The size is the number of names that were registered. -/
  count : ∀ steps : List RegistryStep,
    RegistryStep.answer (start.run steps) .size =
      .ok (.number ((start.gained steps).map Contract.entityName).dedup.length)
  /-- The order between the registrations of different names does not matter. -/
  reordered : ∀ steps other : List RegistryStep,
    (∀ name, steps.filter (·.target? == some name) =
      other.filter (·.target? == some name)) →
    (∀ name, (start.run steps).find? name = (start.run other).find? name) ∧
      (start.run steps).registry.contracts.Perm (start.run other).registry.contracts

def initial (settings? : Option Settings) (shared : SharedSettings) :
    RegistryState where
  registry := .empty settings?
  shared

section Initial

variable (settings? : Option Settings) (shared : SharedSettings)

theorem find?_initial (name : String) : (initial settings? shared).find? name = none :=
  rfl

theorem initial_lawful : (initial settings? shared).Lawful where
  first := by
    intro steps name contract found
    obtain ⟨earlier, step, later, split, answered, gain, rfl, failing⟩ :=
      exists_first_of_find?_run (find?_initial settings? shared name) steps found
    obtain ⟨-, asked⟩ := RegistryStep.gained?_coherent gain
    refine ⟨earlier, step, later, split, ?_, answered, asked, failing⟩
    exact RegistryStep.target?_eq_some_iff.mpr ⟨_, _, asked, rfl⟩
  stored := by
    intro steps step name contract targeted answered
    rw [run_append]
    exact find?_next_of_answer targeted answered
  lasting := by
    intro steps later name contract found
    rw [run_append]
    exact find?_run_of_some found later
  coherent := by
    intro steps name contract found
    obtain ⟨earlier, step, later, rfl, -, gain, rfl, -⟩ :=
      exists_first_of_find?_run (find?_initial settings? shared name) steps found
    obtain ⟨coherent, -⟩ := RegistryStep.gained?_coherent gain
    obtain ⟨default, -, enumerated⟩ := coherent.exists_default
    refine ⟨rfl, coherent.resolves, coherent.enumerates, ?_⟩
    rw [RequestModel.orders?, enumerated]
  taken := by
    intro steps step schema response? present asked found
    rw [RegistryStep.answer_of_request asked,
      Registry.register_outcome_of_taken found]
    rfl
  traceless := by
    intro steps step failure failed
    have same : ((initial settings? shared).run (steps ++ [step])).Agrees
        ((initial settings? shared).run steps) := by
      rw [run_append]
      exact .of_error failed
    exact ⟨same.sameRegistry, same.answers_eq⟩
  available := by
    intro steps step schema response? settings contract asked absent known built
    rw [RegistryStep.answer_of_request asked,
      Registry.register_outcome_eq_ok_iff.mpr ⟨absent, ?_⟩]
    · rfl
    · exact Registry.builtUnder_eq_some_iff.mpr
        ⟨settings, (inForce_run steps).trans known, built⟩
  got := by
    intro steps name contract
    exact answer_get_iff
  membership := by
    intro steps key
    exact answer_contains_iff
  count := by
    intro steps
    have distinct := ((initial settings? shared).run steps).registry.names_nodup
    have gained : ((initial settings? shared).run steps).registry.contracts =
        (initial settings? shared).gained steps := contracts_run steps
    rw [gained] at distinct
    rw [distinct.dedup, List.length_map, ← gained]
    rfl
  reordered := by
    intro steps other same
    have found : ∀ name, ((initial settings? shared).run steps).find? name =
        ((initial settings? shared).run other).find? name := by
      intro name
      rw [find?_run, find?_run, find?_built_of_filter, same name,
        ← find?_built_of_filter]
    exact ⟨found, Registry.perm_contracts found⟩

end Initial

end RegistryState

end Folio
