import Folio.JsonSchema.Reference
import Folio.Parameter

/-!
# Documented query parameters

The query parameters of a listing, as a service documents them: each with its
schema, in which no reference is left.
-/

namespace Folio.JsonSchema

def parameterEntry (parameter : Parameter) (property : Json) : Json :=
  let sample? :=
    match property.member? "examples" with
    | some (.arr (first :: _)) => some first
    | _ => none
  .obj (("name", .str parameter.wireName) :: ("in", .str "query") ::
    ("required", .bool false) :: ("schema", property) ::
    (Members.optional "description" (property.member? "description") ++
      Members.optional "example" sample?))

/-- The entry of a parameter, if the schema has a property for it. -/
def parameterOf? (definitions properties : Members) (parameter : Parameter) :
    Except Failure (Option Json) :=
  match Members.find? parameter.wireName properties with
  | some property => do
      let inlined ← inlineReferences definitions property
      return some (parameterEntry parameter inlined)
  | none => .ok none

def membersOf (name : Text) (schema : Json) : Members :=
  match schema.member? name with
  | some (.obj members) => members
  | _ => []

def parametersOf (schema : Json) : Except Failure (List Json) := do
  let definitions := membersOf "$defs" schema
  let properties := membersOf "properties" schema
  let entries ← Parameter.all.mapM (parameterOf? definitions properties)
  return entries.filterMap id

def queryParameters (model : RequestModel) : Except Failure (List Json) :=
  parametersOf (ofRequestModel model)

def dropNulls : Json → Json
  | .obj members =>
      .obj (members.filter fun member =>
        match member.2 with
        | .null => false
        | _ => true)
  | other => other

/-- An entry as the document of a whole service shows it: nothing is said about
a default of null. -/
def documented : Json → Json
  | .obj members =>
      .obj (members.map fun (name, value) =>
        (name, if name = "schema" then dropNulls value else value))
  | other => other

end Folio.JsonSchema
