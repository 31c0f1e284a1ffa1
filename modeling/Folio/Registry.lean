import Folio.Contract
import Folio.Json.Literal
import Folio.Settings.Shared

/-!
# The registry of contracts

A registry keeps one contract for each entity name.  A contract is built once
and never changes; the settings in force are those of the registry or else the
shared ones.
-/

namespace Folio

structure Registry where
  settings? : Option Settings
  contracts : List Contract
  names_nodup : (contracts.map Contract.entityName).Nodup

namespace Registry

def empty (settings? : Option Settings) : Registry where
  settings?
  contracts := []
  names_nodup := List.nodup_nil

def find? (registry : Registry) (name : String) : Option Contract :=
  registry.contracts.find? fun contract => contract.entityName == name

def size (registry : Registry) : Nat :=
  registry.contracts.length

def insert (registry : Registry) (contract : Contract)
    (absent : registry.find? contract.entityName = none) : Registry where
  settings? := registry.settings?
  contracts := registry.contracts ++ [contract]
  names_nodup := by
    rw [List.map_append, List.nodup_append]
    refine ⟨registry.names_nodup, by simp, ?_⟩
    intro left leftMember right rightMember same
    obtain ⟨present, presentMember, rfl⟩ := List.mem_map.mp leftMember
    simp only [List.map_cons, List.map_nil, List.mem_singleton] at rightMember
    subst rightMember
    have different := List.find?_eq_none.mp absent present presentMember
    exact different (by simpa using same)

/-- The settings for a registration: those of the registry, or the shared
ones. -/
def settingsFor (registry : Registry) (shared : SharedSettings) :
    Except Failure Settings × SharedSettings :=
  match registry.settings? with
  | some settings => (.ok settings, shared)
  | none => shared.get

/-- The outcome of a registration, with the registry and the shared settings
after it. -/
structure Registration where
  outcome : Except Failure Contract
  registry : Registry
  shared : SharedSettings

def refused (registry : Registry) (shared : SharedSettings) (failure : Failure) :
    Registration where
  outcome := .error failure
  registry
  shared

/-- Put a contract under its name, unless the name is taken. -/
def accept (registry : Registry) (shared : SharedSettings) (contract : Contract) :
    Registration :=
  match absent : registry.find? contract.entityName with
  | none =>
      { outcome := .ok contract
        registry := registry.insert contract absent
        shared }
  | some _ =>
      refused registry shared (.fault (.alreadyRegistered contract.entityName))

def registerOrders (registry : Registry) (shared : SharedSettings)
    (schema : EntitySchema) (response? : Option EntityModel)
    (fieldSet : FieldSet) (orders : OrderEnum) : Registration :=
  let (settings, after) := registry.settingsFor shared
  match settings with
  | .error failure => refused registry after failure
  | .ok settings =>
      match Contract.ofOrders schema fieldSet orders settings.limits response? with
      | .error failure => refused registry after failure
      | .ok contract => accept registry after contract

/-- Register a schema.  The shared settings are asked for only when its orders are
enumerated. -/
def register (registry : Registry) (shared : SharedSettings)
    (schema : EntitySchema) (response? : Option EntityModel) : Registration :=
  match registry.find? schema.name with
  | some _ =>
      refused registry shared (.fault (.alreadyRegistered schema.name))
  | none =>
      match schema.resolve with
      | .error fault => refused registry shared (.fault fault)
      | .ok fieldSet =>
          match OrderEnum.build schema.name fieldSet with
          | .error failure => refused registry shared failure
          | .ok orders =>
              registry.registerOrders shared schema response? fieldSet orders

/-- Register the schema of an entity type, under its name or another one. -/
def registerModel (registry : Registry) (shared : SharedSettings)
    (model : EntityModel) (name? : Option Text) : Registration :=
  match model.schema name? with
  | .error issues => refused registry shared (.ofIssues issues)
  | .ok schema => registry.register shared schema (some model)

def get (registry : Registry) (name : String) : Except Failure Contract :=
  match registry.find? name with
  | some contract => .ok contract
  | none => .error (.fault (.noContract name))

def contains (registry : Registry) (name : String) : Bool :=
  (registry.find? name).isSome

/-- The contract under a raw name.  No entity has a name that cannot be encoded, and
lists and objects cannot be looked up. -/
def getRaw (registry : Registry) : Json → Except Failure Contract
  | .str name =>
      match name.toString? with
      | some string => registry.get string
      | none => .error (.fault (.noContract name))
  | .arr _ => .error .wrongType
  | .obj _ => .error .wrongType
  | other => .error (.fault (.noContract other.shown))

def containsRaw (registry : Registry) : Json → Except Failure Bool
  | .str name => .ok ((name.toString?.map registry.contains).getD false)
  | .arr _ => .error .wrongType
  | .obj _ => .error .wrongType
  | _ => .ok false

end Registry

end Folio
