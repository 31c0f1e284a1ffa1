import Folio.Proofs.PageBounds
import Folio.Proofs.RegistryHistory
import Mathlib.Data.List.Induction

/-!
# Histories of the shared settings

The shared settings are those of the environment at the first call that could load
them, until they are dropped.  A registration that comes to its settings is such a
call, and the contract that it adds holds on to what the call returned.
-/

namespace Folio

/-! ## Steps -/

/-- What can be done while a registry uses the shared settings. -/
inductive SettingsStep
  | replace (environment : Environment)
  | clear
  | get
  | fresh
  | registry (step : RegistryStep)
  | decode (name : String) (query : Members)

inductive SettingsAnswer
  | done
  | settings (settings : Settings)
  | registry (answer : RegistryAnswer)
  | request (request : PageRequest)

namespace SettingsStep

/-- What a step answers, and the state after it. -/
def perform (state : RegistryState) :
    SettingsStep → Except Failure SettingsAnswer × RegistryState
  | .replace environment =>
      (.ok .done, { state with shared := state.shared.withEnvironment environment })
  | .clear => (.ok .done, { state with shared := state.shared.clear })
  | .get =>
      (state.shared.get.1.map .settings, { state with shared := state.shared.get.2 })
  | .fresh => (state.shared.fresh.map .settings, state)
  | .registry step => ((step.answer state).map .registry, step.next state)
  | .decode name query =>
      ((state.registry.get name).bind fun contract =>
        (PageRequest.decode contract.requestModel query).map .request, state)

def answer (state : RegistryState) (step : SettingsStep) :
    Except Failure SettingsAnswer :=
  (step.perform state).1

def next (state : RegistryState) (step : SettingsStep) : RegistryState :=
  (step.perform state).2

def environment? : SettingsStep → Option Environment
  | .replace environment => some environment
  | _ => none

end SettingsStep

/-- A registration asks for the shared settings where the registry has none of its
own and its orders are enumerated. -/
def RegistryStep.Asks (state : RegistryState) (step : RegistryStep) : Prop :=
  state.registry.settings? = none ∧
    ∃ schema response?, step.request? = some (schema, response?) ∧
      state.registry.Admits schema

/-- The steps that call for the shared settings. -/
def SettingsStep.Asks (state : RegistryState) : SettingsStep → Prop
  | .get => True
  | .registry step => step.Asks state
  | .replace _ | .clear | .fresh | .decode _ _ => False

namespace RegistryState

def after (start : RegistryState) (steps : List SettingsStep) : RegistryState :=
  steps.foldl SettingsStep.next start

/-- The environment of the last step that replaced it. -/
def environmentAfter (start : RegistryState) (steps : List SettingsStep) :
    Environment :=
  (steps.filterMap SettingsStep.environment?).getLast?.getD start.shared.environment

/-- A call in a history that is the first to succeed since the settings were last
dropped. -/
structure Obtains (start : RegistryState) (steps earlier : List SettingsStep)
    (call : SettingsStep) (later : List SettingsStep) : Prop where
  split : steps = earlier ++ call :: later
  kept : .clear ∉ later
  asks : call.Asks (start.after earlier)
  succeeds : ∃ settings, (start.after earlier).shared.get.1 = .ok settings
  /-- Of the calls before it, all since the settings were last dropped have failed. -/
  first : ∀ before other between, earlier = before ++ other :: between →
    .clear ∉ between → other.Asks (start.after before) →
    ∃ failure, (start.after before).shared.get.1 = .error failure

end RegistryState

/-! ## The shared settings -/

namespace SharedSettings

variable {shared : SharedSettings} {settings : Settings}

theorem get_of_loaded (loaded : shared.loaded? = some settings) :
    shared.get = (.ok settings, shared) := by
  rw [get, loaded]

theorem get_of_unloaded (unloaded : shared.loaded? = none) :
    shared.get.1 = Settings.load shared.environment [] := by
  rw [get, unloaded]
  dsimp only
  cases Settings.load shared.environment [] <;> rfl

/-- What is returned is kept. -/
theorem loaded?_get_eq_some_iff :
    shared.get.2.loaded? = some settings ↔ shared.get.1 = .ok settings := by
  cases known : shared.loaded? with
  | some present => simp [get_of_loaded known, known]
  | none =>
      rw [get, known]
      dsimp only
      cases Settings.load shared.environment [] <;> simp [known]

theorem environment_get : shared.get.2.environment = shared.environment := by
  unfold get
  split
  · rfl
  · split <;> rfl

theorem get_eq_error_iff {failure : Failure} :
    shared.get.1 = .error failure ↔
      shared.loaded? = none ∧ Settings.load shared.environment [] = .error failure := by
  cases known : shared.loaded? with
  | some present => simp [get_of_loaded known]
  | none => simp [get_of_unloaded known]

/-- A load that fails changes nothing. -/
theorem get_of_failed {failure : Failure} (failed : shared.get.1 = .error failure) :
    shared.get.2 = shared := by
  obtain ⟨unloaded, unreadable⟩ := get_eq_error_iff.mp failed
  rw [get, unloaded]
  dsimp only
  rw [unreadable]

end SharedSettings

theorem Registry.settingsFor_of_unset {registry : Registry}
    (unset : registry.settings? = none) (shared : SharedSettings) :
    registry.settingsFor shared = shared.get := by
  rw [settingsFor, unset]

/-! ## One registration -/

namespace RegistryStep

variable {state : RegistryState} {step : RegistryStep} {settings : Settings}
  {contract : Contract} {name : String}

theorem shared_next_of_asks (asks : step.Asks state) :
    (step.next state).shared = state.shared.get.2 := by
  obtain ⟨unset, schema, response?, asked, admitted⟩ := asks
  rw [next_of_request asked, RegistryState.ofRegistration,
    Registry.register_shared_of_admits admitted, Registry.settingsFor_of_unset unset]

theorem shared_next_of_not_asks (silent : ¬ step.Asks state) :
    (step.next state).shared = state.shared := by
  cases asked : step.request? with
  | none => rw [next_of_no_request asked]
  | some request =>
      rw [next_of_request asked, RegistryState.ofRegistration]
      by_cases admitted : state.registry.Admits request.1
      · cases own : state.registry.settings? with
        | none => exact absurd ⟨own, request.1, request.2, asked, admitted⟩ silent
        | some settings =>
            rw [Registry.register_shared_of_admits admitted, Registry.settingsFor, own]
      · exact Registry.register_shared_of_not_admits admitted request.2

/-- A registration whose call fails has no effect. -/
theorem perform_of_failed (asks : step.Asks state) {failure : Failure}
    (failed : state.shared.get.1 = .error failure) :
    step.perform state = (.error failure, state) := by
  obtain ⟨unset, schema, response?, asked, admitted⟩ := asks
  have unsettled : state.registry.inForce state.shared = .error failure := by
    rw [Registry.inForce, Registry.settingsFor_of_unset unset, failed]
  rw [perform_of_request asked,
    Registry.register_of_unsettled admitted response? unsettled,
    Registry.settingsFor_of_unset unset, SharedSettings.get_of_failed failed]
  rfl

theorem exists_answer_of_asks {schema : EntitySchema} {response? : Option EntityModel}
    (asked : step.request? = some (schema, response?))
    (encodable : schema.HasEncodableOrders) (asks : step.Asks state)
    (known : state.shared.get.1 = .ok settings) :
    ∃ contract, step.answer state = .ok (.contract contract) := by
  obtain ⟨unset, ownSchema, ownResponse?, same, admitted⟩ := asks
  rw [asked, Option.some.injEq, Prod.mk.injEq] at same
  obtain ⟨rfl, rfl⟩ := same
  have settled : state.registry.inForce state.shared = .ok settings := by
    rw [Registry.inForce, Registry.settingsFor_of_unset unset, known]
  obtain ⟨contract, succeeded⟩ :=
    Registry.exists_outcome_of_admits admitted encodable response? settled
  refine ⟨contract, ?_⟩
  rw [answer_of_request asked, succeeded]
  rfl

/-- A contract that is registered has the limits of the settings that the
registration has asked for. -/
theorem exists_settings_of_answer (unset : state.registry.settings? = none)
    (targeted : step.target? = some name)
    (answered : step.answer state = .ok (.contract contract)) :
    step.Asks state ∧
      ∃ settings, state.shared.get.1 = .ok settings ∧
        contract.requestModel.limits = settings.limits := by
  obtain ⟨schema, response?, asked, -⟩ := target?_eq_some_iff.mp targeted
  have succeeded :
      (state.registry.register state.shared schema response?).outcome =
        .ok contract := by
    rw [answer_of_request asked] at answered
    obtain ⟨registered, succeeded, same⟩ := map_eq_ok_iff.mp answered
    rw [succeeded, RegistryAnswer.contract.inj same]
  refine ⟨⟨unset, schema, response?, asked, Registry.admits_of_outcome succeeded⟩, ?_⟩
  obtain ⟨-, built⟩ := Registry.register_outcome_eq_ok_iff.mp succeeded
  obtain ⟨settings, settled, assembled⟩ := Registry.builtUnder_eq_some_iff.mp built
  rw [Registry.inForce, Registry.settingsFor_of_unset unset] at settled
  exact ⟨settings, settled, (Contract.build_eq_ok_iff.mp assembled).2.2.1⟩

end RegistryStep

/-! ## One step -/

namespace SettingsStep

variable {state : RegistryState} {step : SettingsStep} {settings : Settings}

theorem get_or_registry_of_asks (asks : step.Asks state) :
    step = .get ∨ ∃ own : RegistryStep, step = .registry own ∧ own.Asks state := by
  cases step with
  | get => exact .inl rfl
  | registry own => exact .inr ⟨own, rfl, asks⟩
  | _ => cases asks

theorem shared_next_of_asks (asks : step.Asks state) :
    (step.next state).shared = state.shared.get.2 := by
  rcases get_or_registry_of_asks asks with rfl | ⟨own, rfl, ownAsks⟩
  · rfl
  · exact RegistryStep.shared_next_of_asks ownAsks

theorem loaded?_next_of_not_asks (silent : ¬ step.Asks state) (kept : step ≠ .clear) :
    (step.next state).shared.loaded? = state.shared.loaded? := by
  cases step with
  | replace environment => rfl
  | clear => exact absurd rfl kept
  | get => exact absurd trivial silent
  | fresh => rfl
  | registry step =>
      exact congrArg SharedSettings.loaded? (RegistryStep.shared_next_of_not_asks silent)
  | decode name query => rfl

theorem loaded?_next_of_success (asks : step.Asks state)
    (succeeds : state.shared.get.1 = .ok settings) :
    (step.next state).shared.loaded? = some settings := by
  rw [shared_next_of_asks asks, SharedSettings.loaded?_get_eq_some_iff, succeeds]

/-- Settings stay until they are dropped. -/
theorem loaded?_next_of_some (loaded : state.shared.loaded? = some settings)
    (kept : step ≠ .clear) : (step.next state).shared.loaded? = some settings := by
  by_cases asks : step.Asks state
  · apply loaded?_next_of_success asks
    rw [SharedSettings.get_of_loaded loaded]
  · rw [loaded?_next_of_not_asks asks kept, loaded]

/-- Settings that were not there before come from a call that could load them. -/
theorem asks_of_loaded?_next (unloaded : state.shared.loaded? = none)
    (loaded : (step.next state).shared.loaded? = some settings) :
    step.Asks state ∧ Settings.load state.shared.environment [] = .ok settings := by
  have asks : step.Asks state := by
    by_contra silent
    by_cases dropped : step = .clear
    · subst dropped
      cases loaded
    · rw [loaded?_next_of_not_asks silent dropped, unloaded] at loaded
      cases loaded
  refine ⟨asks, ?_⟩
  rw [shared_next_of_asks asks, SharedSettings.loaded?_get_eq_some_iff,
    SharedSettings.get_of_unloaded unloaded] at loaded
  exact loaded

theorem environment_next :
    (step.next state).shared.environment =
      step.environment?.getD state.shared.environment := by
  cases step with
  | replace environment => rfl
  | clear => rfl
  | get => exact SharedSettings.environment_get
  | fresh => rfl
  | registry step =>
      change (step.next state).shared.environment = state.shared.environment
      by_cases asks : step.Asks state
      · rw [RegistryStep.shared_next_of_asks asks, SharedSettings.environment_get]
      · rw [RegistryStep.shared_next_of_not_asks asks]
  | decode name query => rfl

theorem settings?_next :
    (step.next state).registry.settings? = state.registry.settings? := by
  cases step with
  | registry step => exact RegistryStep.settings?_next
  | _ => rfl

theorem find?_next_of_some {name : String} {contract : Contract}
    (found : state.find? name = some contract) :
    (step.next state).find? name = some contract := by
  cases step with
  | registry step =>
      change (step.next state).find? name = some contract
      rw [RegistryStep.find?_next, found, Option.some_or]
  | _ => exact found

/-- A call that fails is answered with the failure, and changes nothing. -/
theorem perform_of_failed (asks : step.Asks state) {failure : Failure}
    (failed : state.shared.get.1 = .error failure) :
    step.perform state = (.error failure, state) := by
  rcases get_or_registry_of_asks asks with rfl | ⟨own, rfl, ownAsks⟩
  · rw [perform, failed, SharedSettings.get_of_failed failed]
    rfl
  · have idle := RegistryStep.perform_of_failed ownAsks failed
    rw [perform, RegistryStep.answer, RegistryStep.next, idle]
    rfl

theorem answer_get_eq_ok_iff :
    SettingsStep.get.answer state = .ok (.settings settings) ↔
      state.shared.get.1 = .ok settings := by
  rw [answer, perform, map_eq_ok_iff]
  simp

theorem answer_get_eq_error_iff {failure : Failure} :
    SettingsStep.get.answer state = .error failure ↔
      state.shared.get.1 = .error failure := by
  rw [answer, perform]
  cases state.shared.get.1 <;> simp [Except.map]

theorem answer_registry_eq_ok_iff {own : RegistryStep} {found : RegistryAnswer} :
    (SettingsStep.registry own).answer state = .ok (.registry found) ↔
      own.answer state = .ok found := by
  rw [answer, perform, map_eq_ok_iff]
  simp

theorem answer_decode_of_find? {name : String} {contract : Contract}
    (found : state.find? name = some contract) (query : Members) :
    (SettingsStep.decode name query).answer state =
      (PageRequest.decode contract.requestModel query).map .request := by
  have got : state.registry.get name = .ok contract := by
    rw [Registry.get]
    rw [RegistryState.find?] at found
    rw [found]
  rw [answer, perform, got]
  rfl

end SettingsStep

/-! ## Whole histories -/

namespace RegistryState

variable {start : RegistryState} {settings : Settings}

theorem after_append (steps later : List SettingsStep) :
    start.after (steps ++ later) = (start.after steps).after later :=
  List.foldl_append

theorem after_concat (steps : List SettingsStep) (step : SettingsStep) :
    start.after (steps ++ [step]) = step.next (start.after steps) :=
  after_append steps [step]

theorem after_split (steps : List SettingsStep) (step : SettingsStep)
    (later : List SettingsStep) :
    start.after (steps ++ step :: later) =
      (step.next (start.after steps)).after later :=
  after_append steps (step :: later)

theorem settings?_after (steps : List SettingsStep) :
    (start.after steps).registry.settings? = start.registry.settings? := by
  induction steps using List.reverseRecOn with
  | nil => rfl
  | append_singleton steps step inductionHypothesis =>
      rw [after_concat, SettingsStep.settings?_next, inductionHypothesis]

theorem find?_after_of_some {name : String} {contract : Contract}
    (found : start.find? name = some contract) (steps : List SettingsStep) :
    (start.after steps).find? name = some contract := by
  induction steps using List.reverseRecOn with
  | nil => exact found
  | append_singleton steps step inductionHypothesis =>
      rw [after_concat]
      exact SettingsStep.find?_next_of_some inductionHypothesis

theorem environment_after (steps : List SettingsStep) :
    (start.after steps).shared.environment = start.environmentAfter steps := by
  induction steps using List.reverseRecOn with
  | nil => rfl
  | append_singleton steps step inductionHypothesis =>
      rw [after_concat, SettingsStep.environment_next, inductionHypothesis,
        environmentAfter, environmentAfter, List.filterMap_append]
      cases replaced : step.environment? <;> simp [replaced]

theorem loaded?_after_of_some (loaded : start.shared.loaded? = some settings)
    {steps : List SettingsStep} (kept : .clear ∉ steps) :
    (start.after steps).shared.loaded? = some settings := by
  induction steps using List.reverseRecOn with
  | nil => exact loaded
  | append_singleton steps step inductionHypothesis =>
      rw [List.mem_append, List.mem_singleton, not_or] at kept
      rw [after_concat]
      exact SettingsStep.loaded?_next_of_some (inductionHypothesis kept.1) (Ne.symm kept.2)

/-- What a call returned stays until the settings are dropped. -/
theorem loaded?_after_of_success {earlier later : List SettingsStep}
    {call : SettingsStep} (asks : call.Asks (start.after earlier))
    (succeeds : (start.after earlier).shared.get.1 = .ok settings)
    (kept : .clear ∉ later) :
    (start.after (earlier ++ call :: later)).shared.loaded? = some settings := by
  rw [after_split]
  exact loaded?_after_of_some (SettingsStep.loaded?_next_of_success asks succeeds) kept

/-- Where there are no settings, every call since they were last dropped has failed. -/
theorem exists_failure_of_unloaded {earlier later : List SettingsStep}
    {call : SettingsStep}
    (unloaded : (start.after (earlier ++ call :: later)).shared.loaded? = none)
    (kept : .clear ∉ later) (asks : call.Asks (start.after earlier)) :
    ∃ failure, (start.after earlier).shared.get.1 = .error failure := by
  cases outcome : (start.after earlier).shared.get.1 with
  | error failure => exact ⟨failure, rfl⟩
  | ok settings =>
      rw [loaded?_after_of_success asks outcome kept] at unloaded
      cases unloaded

namespace Obtains

variable {steps earlier later : List SettingsStep} {call : SettingsStep}

/-- The call remains the first one, whatever follows but a drop of the settings. -/
theorem concat (obtained : start.Obtains steps earlier call later) {step : SettingsStep}
    (kept : step ≠ .clear) :
    start.Obtains (steps ++ [step]) earlier call (later ++ [step]) where
  split := by
    rw [obtained.split, List.append_assoc, List.cons_append]
  kept := by
    rw [List.mem_append, List.mem_singleton, not_or]
    exact ⟨obtained.kept, Ne.symm kept⟩
  asks := obtained.asks
  succeeds := obtained.succeeds
  first := obtained.first

theorem of_unloaded (unloaded : (start.after steps).shared.loaded? = none)
    (asks : call.Asks (start.after steps))
    (succeeds : (start.after steps).shared.get.1 = .ok settings) :
    start.Obtains (steps ++ [call]) steps call [] where
  split := rfl
  kept := List.not_mem_nil
  asks := asks
  succeeds := ⟨settings, succeeds⟩
  first := by
    rintro before other between rfl kept otherAsks
    exact exists_failure_of_unloaded unloaded kept otherAsks

end Obtains

/-- Settings that are there were obtained by a call. -/
theorem exists_obtains (unloaded : start.shared.loaded? = none)
    {steps : List SettingsStep}
    (loaded : (start.after steps).shared.loaded? = some settings) :
    ∃ earlier call later, start.Obtains steps earlier call later ∧
      Settings.load (start.environmentAfter earlier) [] = .ok settings := by
  -- From the last step back: it kept the settings that were there, or it obtained them.
  induction steps using List.reverseRecOn with
  | nil =>
      rw [after, List.foldl_nil, unloaded] at loaded
      cases loaded
  | append_singleton steps step inductionHypothesis =>
      rw [after_concat] at loaded
      cases present : (start.after steps).shared.loaded? with
      | some earlierSettings =>
          have kept : step ≠ .clear := by
            rintro rfl
            cases loaded
          rw [SettingsStep.loaded?_next_of_some present kept] at loaded
          obtain ⟨earlier, call, later, obtained, read⟩ :=
            inductionHypothesis (present.trans loaded)
          exact ⟨earlier, call, later ++ [step], obtained.concat kept, read⟩
      | none =>
          obtain ⟨asks, read⟩ := SettingsStep.asks_of_loaded?_next present loaded
          have succeeds : (start.after steps).shared.get.1 = .ok settings := by
            rw [SharedSettings.get_of_unloaded present, read]
          refine ⟨steps, step, [], .of_unloaded present asks succeeds, ?_⟩
          rw [← environment_after, read]

namespace Obtains

variable {steps earlier later : List SettingsStep} {call : SettingsStep}

/-- Before the call that obtained the settings there were none. -/
theorem unloaded (unloaded : start.shared.loaded? = none)
    (obtained : start.Obtains steps earlier call later) :
    (start.after earlier).shared.loaded? = none := by
  cases present : (start.after earlier).shared.loaded? with
  | none => rfl
  | some settings =>
      obtain ⟨before, other, between, sooner, -⟩ := exists_obtains unloaded present
      obtain ⟨failure, failed⟩ :=
        obtained.first before other between sooner.split sooner.kept sooner.asks
      obtain ⟨returned, succeeded⟩ := sooner.succeeds
      rw [failed] at succeeded
      cases succeeded

/-- The call returned what it could load. -/
theorem exists_load (unloaded : start.shared.loaded? = none)
    (obtained : start.Obtains steps earlier call later) :
    ∃ settings, Settings.load (start.environmentAfter earlier) [] = .ok settings ∧
      (start.after steps).shared.loaded? = some settings := by
  obtain ⟨settings, returned⟩ := obtained.succeeds
  have kept := loaded?_after_of_success obtained.asks returned obtained.kept
  rw [← obtained.split] at kept
  rw [SharedSettings.get_of_unloaded (obtained.unloaded unloaded),
    environment_after] at returned
  exact ⟨settings, returned, kept⟩

end Obtains

/-- The shared settings after a history are those of the environment at the call that
obtained them. -/
theorem loaded?_after_iff (unloaded : start.shared.loaded? = none)
    (steps : List SettingsStep) :
    (start.after steps).shared.loaded? = some settings ↔
      ∃ earlier call later, start.Obtains steps earlier call later ∧
        Settings.load (start.environmentAfter earlier) [] = .ok settings := by
  constructor
  · exact exists_obtains unloaded
  · rintro ⟨earlier, call, later, obtained, read⟩
    obtain ⟨known, loaded, kept⟩ := obtained.exists_load unloaded
    rw [read] at loaded
    rw [kept, Except.ok.inj loaded]

theorem unloaded_after_iff (unloaded : start.shared.loaded? = none)
    (steps : List SettingsStep) :
    (start.after steps).shared.loaded? = none ↔
      ∀ earlier call later, ¬ start.Obtains steps earlier call later := by
  constructor
  · intro nothing earlier call later obtained
    obtain ⟨settings, -, kept⟩ := obtained.exists_load unloaded
    rw [nothing] at kept
    cases kept
  · intro unobtained
    rw [Option.eq_none_iff_forall_ne_some]
    intro settings loaded
    obtain ⟨earlier, call, later, obtained, -⟩ := exists_obtains unloaded loaded
    exact unobtained earlier call later obtained

/-- What one can rely on about the shared settings and the contracts of a registry that
uses them. -/
structure KeepsSettings (start : RegistryState) : Prop where
  /-- What a call returns was loaded from the environment at the first call that
  succeeded since the settings were last dropped. -/
  returned : ∀ (steps : List SettingsStep) (settings : Settings),
    SettingsStep.get.answer (start.after steps) = .ok (.settings settings) ↔
      ∃ earlier call later, start.Obtains (steps ++ [.get]) earlier call later ∧
        Settings.load (start.environmentAfter earlier) [] = .ok settings
  /-- A call fails if none has succeeded since then and the present environment cannot be
  loaded. -/
  missing : ∀ (steps : List SettingsStep) (failure : Failure),
    SettingsStep.get.answer (start.after steps) = .error failure ↔
      (∀ earlier call later, ¬ start.Obtains steps earlier call later) ∧
        Settings.load (start.environmentAfter steps) [] = .error failure
  /-- A call that fails is answered with the failure and changes nothing, neither the
  settings nor the registry. -/
  idle : ∀ (steps : List SettingsStep) (call : SettingsStep) (failure : Failure),
    call.Asks (start.after steps) →
    SettingsStep.get.answer (start.after steps) = .error failure →
    call.answer (start.after steps) = .error failure ∧
      start.after (steps ++ [call]) = start.after steps
  /-- Fresh settings are those of the present environment. -/
  fresh : ∀ steps : List SettingsStep,
    SettingsStep.fresh.answer (start.after steps) =
        (Settings.load (start.environmentAfter steps) []).map .settings ∧
      start.after (steps ++ [.fresh]) = start.after steps
  /-- A registration whose call succeeds adds a contract, if the fields to order by can
  be encoded. -/
  registered : ∀ (steps : List SettingsStep) (step : RegistryStep)
    (schema : EntitySchema) (response? : Option EntityModel) (settings : Settings),
    step.request? = some (schema, response?) → schema.HasEncodableOrders →
    step.Asks (start.after steps) →
    SettingsStep.get.answer (start.after steps) = .ok (.settings settings) →
    ∃ contract, (SettingsStep.registry step).answer (start.after steps) =
      .ok (.registry (.contract contract))
  /-- A registration that adds a contract has called for the settings, and the contract
  has the limits that a call returns at that point. -/
  limited : ∀ (steps : List SettingsStep) (step : RegistryStep) (name : String)
    (contract : Contract), step.target? = some name →
    (SettingsStep.registry step).answer (start.after steps) =
      .ok (.registry (.contract contract)) →
    (start.after (steps ++ [.registry step])).find? name = some contract ∧
      step.Asks (start.after steps) ∧
      ∃ settings,
        SettingsStep.get.answer (start.after steps) = .ok (.settings settings) ∧
          contract.requestModel.limits = settings.limits ∧
          contract.requestModel.IsBounded settings.limits
  /-- Nothing changes a contract that is there, nor what a query is decoded to. -/
  lasting : ∀ (steps later : List SettingsStep) (name : String) (contract : Contract),
    (start.after steps).find? name = some contract →
    (start.after (steps ++ later)).find? name = some contract ∧
      ∀ query,
        (SettingsStep.decode name query).answer (start.after (steps ++ later)) =
            (SettingsStep.decode name query).answer (start.after steps) ∧
          (SettingsStep.decode name query).answer (start.after steps) =
            (PageRequest.decode contract.requestModel query).map .request

/-- A registry without settings of its own uses shared settings that are loaded once,
and its contracts hold on to them. -/
theorem keepsSettings (unset : start.registry.settings? = none)
    (unloaded : start.shared.loaded? = none) : start.KeepsSettings where
  returned := by
    intro steps settings
    have called : (SettingsStep.get.next (start.after steps)).shared =
        (start.after steps).shared.get.2 := rfl
    rw [← loaded?_after_iff unloaded, after_concat, called,
      SharedSettings.loaded?_get_eq_some_iff, SettingsStep.answer_get_eq_ok_iff]
  missing := by
    intro steps failure
    rw [SettingsStep.answer_get_eq_error_iff, SharedSettings.get_eq_error_iff,
      unloaded_after_iff unloaded, environment_after]
  idle := by
    intro steps call failure asks failed
    rw [SettingsStep.answer_get_eq_error_iff] at failed
    have nothing := SettingsStep.perform_of_failed asks failed
    rw [after_concat, SettingsStep.answer, SettingsStep.next, nothing]
    exact ⟨rfl, rfl⟩
  fresh := by
    intro steps
    rw [after_concat, ← environment_after]
    exact ⟨rfl, rfl⟩
  registered := by
    intro steps step schema response? settings asked encodable asks known
    rw [SettingsStep.answer_get_eq_ok_iff] at known
    obtain ⟨contract, answered⟩ :=
      RegistryStep.exists_answer_of_asks asked encodable asks known
    exact ⟨contract, SettingsStep.answer_registry_eq_ok_iff.mpr answered⟩
  limited := by
    intro steps step name contract targeted answered
    rw [SettingsStep.answer_registry_eq_ok_iff] at answered
    obtain ⟨asks, settings, known, limits⟩ :=
      RegistryStep.exists_settings_of_answer ((settings?_after steps).trans unset) targeted
        answered
    refine ⟨?_, asks, settings, SettingsStep.answer_get_eq_ok_iff.mpr known, limits,
      RequestModel.isBounded_of_limits limits⟩
    rw [after_concat]
    exact find?_next_of_answer targeted answered
  lasting := by
    intro steps later name contract found
    have still : (start.after (steps ++ later)).find? name = some contract := by
      rw [after_append]
      exact find?_after_of_some found later
    refine ⟨still, ?_⟩
    intro query
    rw [SettingsStep.answer_decode_of_find? still,
      SettingsStep.answer_decode_of_find? found]
    exact ⟨rfl, rfl⟩

/-- A bound that cannot be, a bound under which books are registered, and another
bound. -/
def boundChanges : List SettingsStep :=
  [.replace [("PAGING_MAX_LIMIT", "0")], .get, .replace [("PAGING_MAX_LIMIT", "250")],
    .registry (.register bookSchema none), .replace [("PAGING_MAX_LIMIT", "500")]]

/-- The bound that could be loaded first is kept, by the settings and by the contract. -/
theorem boundChanges_keepsSettings :
    (initial none .initial).KeepsSettings ∧
      ∃ settings contract,
        SettingsStep.get.answer ((initial none .initial).after boundChanges) =
            .ok (.settings settings) ∧
          settings.limits.maxLimit = 250 ∧
          ((initial none .initial).after boundChanges).find? "Book" = some contract ∧
          contract.requestModel.limits.maxLimit = 250 := by
  have bound : ((initial none .initial).after boundChanges).shared.loaded?.map
      (·.limits.maxLimit) = some 250 := by
    decide +kernel
  have contractBound : (((initial none .initial).after boundChanges).find? "Book").map
      (·.requestModel.limits.maxLimit) = some 250 := by
    decide +kernel
  obtain ⟨settings, loaded, capped⟩ := Option.map_eq_some_iff.mp bound
  obtain ⟨contract, found, contractCapped⟩ := Option.map_eq_some_iff.mp contractBound
  refine ⟨keepsSettings rfl rfl, settings, contract, ?_, capped, found, contractCapped⟩
  rw [SettingsStep.answer_get_eq_ok_iff, SharedSettings.get_of_loaded loaded]

end RegistryState

end Folio
