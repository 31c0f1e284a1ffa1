import Folio.Identifier
import Folio.Json.Lenient
import Folio.Json.Record

/-!
# Orderable fields

The identifiers by which the entities of one type can be ordered.  The creation
time comes first, nothing occurs twice, and one of them is the default.
-/

namespace Folio

/-- The identifiers that clients may order by, and the one used when a client
asks for none. -/
structure FieldSet where
  fields : List Text
  default : Text
  starts_createdAt : fields.head? = some Identifier.createdAt
  fields_nodup : fields.Nodup
  default_mem : default ∈ fields
  deriving DecidableEq

namespace FieldSet

def check (fields : List Text) (default : Text) : Checked FieldSet :=
  if starts_createdAt : fields.head? = some Identifier.createdAt then
    if fields_nodup : fields.Nodup then
      if default_mem : default ∈ fields then
        .ok { fields, default, starts_createdAt, fields_nodup, default_mem }
      else .broken ("Default order '" ++ default ++ "' is not an orderable field")
    else .broken "Orderable fields must be unique"
  else
    .broken ("Orderable fields must start with '" ++ Identifier.createdAt ++ "'")

/-- The identifiers of a raw set; without them only the creation time. -/
def fieldsOf (members : Members) : Checked (List Text) :=
  match Members.find? "fields" members with
  | none => .ok [Identifier.createdAt]
  | some (.arr items) =>
      Checked.within (.member "fields")
        (Checked.items (fun item => Checked.here item.asText) items)
  | some _ => Checked.ofMember "fields" (.error .notSequence)

def ofMembers (members : Members) : Checked FieldSet := do
  let (fields, default) ← Checked.both (fieldsOf members)
    (Members.defaulted "default" Identifier.createdAt Json.asText members)
  check fields default

def ofJson : Json → Checked FieldSet :=
  Members.whole .notObject ofMembers

def contains (fieldSet : FieldSet) : Json → Bool
  | .str identifier => fieldSet.fields.contains identifier
  | _ => false

end FieldSet

end Folio
