import Folio.Failure
import Folio.JsonSchema

/-!
# References that fields bring along

What is said about the fields of an entity may hold references of its own.  Only
those that lead to the web can stay in the schema of a page: the definitions of
that schema go by other names.
-/

namespace Folio.JsonSchema

def leadsToWeb (target : Text) : Bool :=
  target.startsWith "http://" || target.startsWith "https://"

/-- A field may refer to the web, and only by a string. -/
def checkTarget : Json → Except Failure Unit
  | .str target =>
      if leadsToWeb target then .ok () else .error (.unknownKey (.str target))
  | .arr _ => .error .wrongType
  | .obj _ => .error .wrongType
  | _ => .error .missingAttribute

def checkField (field : EntityField) : Except Failure Unit :=
  match Members.find? "$ref" field.extra with
  | some target => checkTarget target
  | none => .ok ()

/-- The target of a member that is a reference to something else than the
web. -/
def looseTarget? (name : Text) (value : Json) : Option Text :=
  match value with
  | .str target =>
      if name = "$ref" ∧ !leadsToWeb target then some target else none
  | _ => none

mutual

/-- The first reference inside a value that leads nowhere.  Examples are no part
of the schema proper. -/
def looseReference? : Json → Option Text
  | .arr items => looseReferenceIn? items
  | .obj members => looseReferenceAmong? members
  | _ => none

def looseReferenceIn? : List Json → Option Text
  | [] => none
  | item :: later => (looseReference? item).or (looseReferenceIn? later)

def looseReferenceAmong? : List (Text × Json) → Option Text
  | [] => none
  | (name, value) :: later =>
      (if name = "examples" then none
        else (looseTarget? name value).or (looseReference? value)).or
          (looseReferenceAmong? later)

end

mutual

/-- References inside a value are no lists and no objects, and definitions
inside it are an object. -/
def checkShape : Json → Except Failure Unit
  | .arr items => checkShapes items
  | .obj members => checkMembers members
  | _ => .ok ()

def checkShapes : List Json → Except Failure Unit
  | [] => .ok ()
  | item :: later => do
      checkShape item
      checkShapes later

def checkMembers : List (Text × Json) → Except Failure Unit
  | [] => .ok ()
  | (name, .arr items) :: later =>
      if name = "$ref" then .error .wrongType
      else if name = "$defs" then .error .missingAttribute
      else do
        checkShapes items
        checkMembers later
  | (name, .obj members) :: later =>
      if name = "$ref" then .error .wrongType
      else do
        checkMembers members
        checkMembers later
  | (name, _) :: later =>
      if name = "$defs" then .error .missingAttribute else checkMembers later

end

def checkReferences : EntityModel → Except Failure Unit
  | .article => .ok ()
  | .record _ fields => do
      fields.forM checkField
      let properties := Json.obj (Members.ofList (fields.map fun field =>
        (Text.ofString field.outerName, fieldProperty field)))
      match looseReference? properties with
      | some target => .error (.unknownKey (.str target))
      | none => checkShape properties

/-- The schema of the pages of an entity type, unless a reference in it cannot
be kept. -/
def describePages (model : EntityModel) : Except Failure Json := do
  checkReferences model
  return ofPages model

end Folio.JsonSchema
