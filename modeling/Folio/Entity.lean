import Folio.Article
import Folio.Failure
import Folio.Schema

/-!
# Entity types

The types of the entities that a page can hold: articles, and records whose
fields are given one by one.  The names of a type and of its fields are strings: no
type can be declared with a name that cannot be encoded.  A field may carry a mark
under `order`; the schema of a type is read off these marks.
-/

namespace Folio

inductive ValueKind
  | text
  | integer
  | flag
  | anything
  deriving DecidableEq

structure ValueType where
  kind : ValueKind
  nullable : Bool
  deriving DecidableEq

structure EntityField where
  name : String
  type : ValueType
  /-- The name under which the field is read and written, if it is another
  one. -/
  alias? : Option String
  /-- The value of the field when it is absent; without one it is required. -/
  default? : Option Json
  extra : Members

inductive EntityModel
  | article
  | record (name : String) (fields : List EntityField)

namespace ValueType

def readKind (value : Json) : ValueKind → Except Complaint Json
  | .text => value.asText.map .str
  | .integer => value.asInteger.map .int
  | .flag => value.asFlag.map .bool
  | .anything => .ok value

def read (type : ValueType) (value : Json) : Except Complaint Json :=
  if type.nullable then
    (Json.asOptional (fun present => readKind present type.kind) value).map
      (·.getD .null)
  else readKind value type.kind

end ValueType

namespace EntityField

def outerName (field : EntityField) : String :=
  field.alias?.getD field.name

def mark? (field : EntityField) : Option Json :=
  Members.find? "order" field.extra

def read (field : EntityField) (members : Members) : Checked Json :=
  match field.default? with
  | some value =>
      Members.defaulted field.outerName value field.type.read members
  | none => Members.required field.outerName field.type.read members

end EntityField

def defaultMark : Json := .str "default"

/-- The mark of the default order, whatever else a mark may be. -/
def isDefaultMark : Json → Bool
  | .str text => text == "default"
  | _ => false

namespace EntityModel

/-- The later of two fields with one name stands in the place of the earlier
one. -/
def insertField (field : EntityField) : List EntityField → List EntityField
  | [] => [field]
  | present :: later =>
      if present.name = field.name then field :: later
      else present :: insertField field later

def define (name : String) (fields : List EntityField) :
    Except Failure EntityModel :=
  if name.toList.contains '\x00' then .error .badValue
  else
    .ok (.record name
      (fields.foldl (fun present field => insertField field present) []))

def name : EntityModel → String
  | article => "Article"
  | record name _ => name

def pagesName (model : EntityModel) : String :=
  model.name ++ "PaginationResponse"

/-- The fields of a type with their marks, in declaration order. -/
def marks : EntityModel → List (Text × Option Json)
  | article =>
      [("id", none), ("title", some (.bool true)), ("author", none),
        ("body", none), ("published_at", some defaultMark), ("created_at", none)]
  | record _ fields => fields.map fun field => (field.name, field.mark?)

def descriptor (entry : Text × Option Json) : FieldDescriptor :=
  match entry.2 with
  | some mark => FieldDescriptor.make entry.1 mark.isTruthy (isDefaultMark mark)
  | none => FieldDescriptor.make entry.1 false false

/-- The name for the schema of a type: its own, unless another one is given that is
not empty. -/
def schemaName (model : EntityModel) (name? : Option Text) : Text :=
  match name? with
  | some name => if name = "" then model.name else name
  | none => model.name

/-- The schema of a type, under a name of its own or another one. -/
def schema (model : EntityModel) (name? : Option Text) : Checked EntitySchema :=
  EntitySchema.checkNamed (model.schemaName name?) (model.marks.map descriptor)

def read (fresh : Fresh) : EntityModel → Json → Checked Json
  | article, value => (Article.ofJson fresh value).map Article.toJson
  | record _ fields, value =>
      Members.whole .notObject
        (fun members =>
          (Checked.all (fields.map fun field =>
            (field.read members).map fun kept => (field.outerName, kept))).map
            fun kept => .obj (Members.ofList kept))
        value

end EntityModel

end Folio
