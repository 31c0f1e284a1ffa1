import Folio.JsonSchema.DefinitionKey
import Folio.Page
import Folio.Text.Blank
import Folio.Text.Paragraph

/-!
# JSON schemas

The schemas by which requests, entities and pages are documented.  A schema is a
JSON value; enumerations and entity types are kept apart under `$defs` and
referred to by name.
-/

namespace Folio.JsonSchema

/-! ## Parts of schemas -/

def typed (name : Text) : Json :=
  .obj [("type", .str name)]

def orNull (schema : Json) : Json :=
  .arr [schema, typed "null"]

def integerFrom (minimum : Nat) : Json :=
  .obj [("minimum", .ofNat minimum), ("type", .str "integer")]

def referenceHead : Text := "#/$defs/"

def reference (key : Text) : Json :=
  .obj [("$ref", .str (referenceHead ++ key))]

def ordersKey (orders : OrderEnum) : Text :=
  definitionKey "request_generator" orders.definedName

def entityKey (model : EntityModel) : Text :=
  definitionKey "__main__" model.name

def propertyTitle (name : Text) : Text :=
  let spaced := (Text.title name).toList.map fun point =>
    if point = Identifier.separator then CodePoint.ofChar ' ' else point
  .ofList (Text.trimBy Text.isSeparator spaced)

def enumeration (title : Text) (description? : Option Text)
    (values : List Text) : Json :=
  let choices : Members :=
    [("enum", .arr (values.map .str)), ("title", .str title), ("type", .str "string")]
  .obj (Members.optional "description" (description?.map .str) ++ choices)

/-! ## Requests -/

def directions : Json :=
  enumeration "SortDirection"
    (some "Sort direction accepted in the ``sort`` query parameter.")
    (SortDirection.all.map (·.wire))

/-- A property of a request: what its value may be, and what is said about
it. -/
def requestProperty (choices : Json) (description : Text)
    (further : Members) : Json :=
  .obj (("anyOf", choices) :: ("default", .null) ::
    ("description", .str description) :: further)

def orderProperty : OrderRule → Json
  | .anything =>
      .obj [("default", .null), ("description", .str "Field to order by"),
        ("title", .str "Order")]
  | .among orders default =>
      requestProperty (orNull (reference (ordersKey orders)))
        ("Field to order by (default: " ++ default.wire ++ ")") []

def requestProperties (rule : OrderRule) : Members :=
  [ ("page", requestProperty (orNull (integerFrom 1)) "Page number, starting at 1"
      [("examples", .arr [.int 1]), ("title", .str "Page")]),
    ("limit", requestProperty (orNull (integerFrom 0))
      "Items per page, capped at the configured maximum"
      [("examples", .arr [.int 10]), ("title", .str "Limit")]),
    ("search", requestProperty (orNull (typed "string"))
      "Free-text search term passed to the query layer"
      [("title", .str "Search")]),
    ("sort", requestProperty (orNull (reference "SortDirection"))
      "Sort direction" []),
    ("order", orderProperty rule) ]

def plainDescription : Text :=
  "Page request decoded from query parameters.\n\n" ++
  "Generated subclasses (one per entity) narrow ``requested_order`` to\n" ++
  "the entity's order enum and carry the defaults as class variables.\n" ++
  "Raw inputs stay optional; the accessor methods apply defaults and\n" ++
  "bounds so the query layer never sees a missing value."

/-- The definitions that the schema of a request refers to.  The order lists all
its entries, also those that are another name of a member. -/
def requestDefinitions : OrderRule → Members
  | .anything => [("SortDirection", directions)]
  | .among orders _ =>
      [ (ordersKey orders,
          enumeration orders.name orders.description? orders.entryWires),
        ("SortDirection", directions) ]

def ofRequestModel (model : RequestModel) : Json :=
  let description : Members :=
    match model.orderRule with
    | .anything => [("description", .str plainDescription)]
    | .among _ _ => []
  let contents : Members :=
    [("properties", .obj (requestProperties model.orderRule)),
      ("title", .str model.name), ("type", .str "object")]
  .obj (("$defs", .obj (requestDefinitions model.orderRule)) ::
    (description ++ contents))

/-! ## Entities -/

def kindMembers : ValueKind → Members
  | .text => [("type", .str "string")]
  | .integer => [("type", .str "integer")]
  | .flag => [("type", .str "boolean")]
  | .anything => []

def typeMembers (type : ValueType) : Members :=
  if type.nullable then [("anyOf", orNull (.obj (kindMembers type.kind)))]
  else kindMembers type.kind

/-- The schema of a field.  What else is said about it goes before all the
rest. -/
def fieldProperty (field : EntityField) : Json :=
  let title : Members := [("title", .str (propertyTitle field.outerName))]
  .obj (Members.ofList (typeMembers field.type ++
    Members.optional "default" field.default? ++ title ++ field.extra))

def articleDescription : Text :=
  "Published article.\n\n" ++
  "``title`` and ``published_at`` are orderable; listings default to\n" ++
  "``published_at``. Creation time is always orderable as ``createdAt``.\n" ++
  "Timestamps are stored in UTC; naive inputs are taken to be UTC."

def formatted (format : Text) : Members :=
  [("format", .str format), ("type", .str "string")]

def titled (description title : Text) : Members :=
  [("description", .str description), ("title", .str title)]

def articleProperties : Members :=
  [ ("id", .obj (formatted "uuid" ++ titled "Unique identifier" "Id")),
    ("title", .obj [("description", .str "Headline"), ("minLength", .int 1),
      ("order", .bool true), ("title", .str "Title"), ("type", .str "string")]),
    ("author", .obj [("description", .str "Author display name"),
      ("title", .str "Author"), ("type", .str "string")]),
    ("body", .obj [("default", .str ""), ("description", .str "Article text"),
      ("title", .str "Body"), ("type", .str "string")]),
    ("published_at", .obj [("anyOf", orNull (.obj (formatted "date-time"))),
      ("default", .null), ("description", .str "When the article went live"),
      ("order", .str "default"), ("title", .str "Published At")]),
    ("created_at", .obj (formatted "date-time" ++
      titled "When the article was created" "Created At")) ]

def requiredMember (names : List Text) : Members :=
  if names.isEmpty then [] else [("required", .arr (names.map .str))]

def ofEntity : EntityModel → Json
  | .article =>
      .obj [("description", .str articleDescription),
        ("properties", .obj articleProperties),
        ("required", .arr [.str "title", .str "author"]),
        ("title", .str "Article"), ("type", .str "object")]
  | .record name fields =>
      let properties : Members := Members.ofList (fields.map fun field =>
        (Text.ofString field.outerName, fieldProperty field))
      let required := (fields.filter (·.default?.isNone)).map fun field =>
        Text.ofString field.outerName
      let contents : Members := [("title", .str name), ("type", .str "object")]
      .obj (("properties", .obj properties) :: (requiredMember required ++ contents))

/-! ## Pages -/

def numberProperty (description title : Text) (sample : Nat) : Json :=
  .obj [("description", .str description), ("examples", .arr [.ofNat sample]),
    ("minimum", .int 0), ("title", .str title), ("type", .str "integer")]

def ofPages (model : EntityModel) : Json :=
  let key := entityKey model
  .obj [
    ("$defs", .obj [(key, ofEntity model)]),
    ("description",
      .str (Text.paragraph ("Page of " ++ model.name ++ " items."))),
    ("properties", .obj [
      ("total", numberProperty "Total matching items" "Total" 451),
      ("page", numberProperty "Current page number" "Page" 1),
      ("pages", numberProperty "Total number of pages" "Pages" 10),
      ("data", .obj [("description", .str "Entities on this page"),
        ("items", reference key), ("title", .str "Data"),
        ("type", .str "array")])]),
    ("required", .arr [.str "total", .str "page", .str "pages", .str "data"]),
    ("title", .str model.pagesName),
    ("type", .str "object")]

end Folio.JsonSchema
