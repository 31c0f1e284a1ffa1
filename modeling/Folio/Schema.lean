import Folio.Json.Lenient
import Folio.Json.Record

/-!
# Entity schemas

The fields of an entity type in declaration order, with those by which clients
may order.  A schema has a name, no field twice and at most one default order.  The
characters of its name are counted, so it is a string; the name of a field is any text,
also one with half of a surrogate pair.
-/

namespace Folio

/-- A field of an entity.  The field of the default order is always orderable. -/
structure FieldDescriptor where
  name : Text
  orderable : Bool
  isDefaultOrder : Bool
  default_orderable : isDefaultOrder = true → orderable = true
  deriving DecidableEq

structure EntitySchema where
  name : String
  fields : List FieldDescriptor
  name_nonempty : 1 ≤ name.length
  names_nodup : (fields.map (·.name)).Nodup
  one_default : (fields.filter (·.isDefaultOrder)).length ≤ 1
  deriving DecidableEq

namespace FieldDescriptor

/-- The descriptor in which a default order implies that the field is
orderable. -/
def make (name : Text) (orderable isDefaultOrder : Bool) : FieldDescriptor where
  name
  orderable := orderable || isDefaultOrder
  isDefaultOrder
  default_orderable := by
    intro isDefault
    rw [isDefault, Bool.or_true]

/-- The raw mark of a default order counts as set, whatever it spells. -/
def marksDefault (members : Members) : Bool :=
  match Members.find? "is_default_order" members with
  | some mark => mark.isTruthy
  | none => false

/-- The orderable mark.  It is not looked at when a default order is marked. -/
def orderableMark (members : Members) : Checked Bool :=
  if marksDefault members then .ok true
  else Members.defaulted "orderable" false Json.asFlag members

def ofMembers (members : Members) : Checked FieldDescriptor :=
  (Checked.both (Members.required "name" Json.asText members)
    (Checked.both (orderableMark members)
      (Members.defaulted "is_default_order" false Json.asFlag members))).map
    fun (name, orderable, isDefaultOrder) => make name orderable isDefaultOrder

def ofJson : Json → Checked FieldDescriptor :=
  Members.whole .notObject ofMembers

def toJson (field : FieldDescriptor) : Json :=
  .obj [("name", .str field.name), ("orderable", .bool field.orderable),
    ("is_default_order", .bool field.isDefaultOrder)]

end FieldDescriptor

namespace EntitySchema

def repeated? (seen : List Text) : List Text → Option Text
  | [] => none
  | name :: later =>
      if name ∈ seen then some name else repeated? (seen ++ [name]) later

def defaultFields (fields : List FieldDescriptor) : List FieldDescriptor :=
  fields.filter (·.isDefaultOrder)

private theorem nodup_of_repeated?_none {seen names : List Text}
    (fresh : seen.Nodup) (unrepeated : repeated? seen names = none) :
    (seen ++ names).Nodup := by
  induction names generalizing seen with
  | nil => simpa using fresh
  | cons name later inductionHypothesis =>
      simp only [repeated?] at unrepeated
      split at unrepeated
      · cases unrepeated
      · rename_i absent
        have extended : (seen ++ [name]).Nodup := by
          rw [List.nodup_append]
          refine ⟨fresh, by simp, ?_⟩
          intro left leftMember right rightMember same
          simp only [List.mem_singleton] at rightMember
          subst right
          subst left
          exact absent leftMember
        simpa using inductionHypothesis extended unrepeated

def check (name : String) (name_nonempty : 1 ≤ name.length)
    (fields : List FieldDescriptor) : Checked EntitySchema :=
  match unrepeated : repeated? [] (fields.map (·.name)) with
  | some twice => .broken ("Duplicate field name '" ++ twice ++ "'")
  | none =>
      if one_default : (defaultFields fields).length ≤ 1 then
        .ok { name, fields, name_nonempty, one_default
              names_nodup := by
                simpa using nodup_of_repeated?_none List.nodup_nil unrepeated }
      else
        .broken ("At most one default order field is allowed, got " ++
          Text.intercalate ", " ((defaultFields fields).map (·.name)))

def checkNamed (name : Text) (fields : List FieldDescriptor) :
    Checked EntitySchema :=
  match name.toString? with
  | some string =>
      if name_nonempty : 1 ≤ string.length then check string name_nonempty fields
      else Checked.ofMember "name" (.error (.tooShort 1))
  | none => Checked.ofMember "name" (.error .unreadableText)

/-- The fields of a raw schema; without them a schema has none. -/
def fieldsOf (members : Members) : Checked (List FieldDescriptor) :=
  match Members.find? "fields" members with
  | none => .ok []
  | some (.arr items) =>
      Checked.within (.member "fields") (Checked.items FieldDescriptor.ofJson items)
  | some _ => Checked.ofMember "fields" (.error .notSequence)

/-- A schema from the members of a raw one.  The rules are looked at once all
parts are valid. -/
def ofMembers (members : Members) : Checked EntitySchema := do
  let (name, fields) ← Checked.both
    (Members.required "name" (Json.asTextOfLength 1) members) (fieldsOf members)
  checkNamed name fields

def ofJson : Json → Checked EntitySchema :=
  Members.whole .notObject ofMembers

def orderableFields (schema : EntitySchema) : List FieldDescriptor :=
  schema.fields.filter (·.orderable)

def toJson (schema : EntitySchema) : Json :=
  .obj [("name", .str schema.name),
    ("fields", .arr (schema.fields.map FieldDescriptor.toJson))]

end EntitySchema

end Folio
