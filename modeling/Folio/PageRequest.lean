import Folio.Parameter
import Folio.RequestModel

/-!
# Page requests

A request for one page of a listing.  What a client left out stays absent, and
the accessors supply the defaults and the bound of the model.
-/

namespace Folio

inductive OrderChoice
  | member (entry : OrderEntry)
  | raw (value : Json)

structure PageRequest where
  model : RequestModel
  page? : Option Nat
  limit? : Option Nat
  search? : Option Text
  sort? : Option SortDirection
  order? : Option OrderChoice

namespace PageRequest

/-! ## Accessors -/

def page (request : PageRequest) : Nat :=
  request.page?.getD request.model.limits.defaultPage

/-- The number of items on a page, never above the bound. -/
def limit (request : PageRequest) : Nat :=
  min (request.limit?.getD request.model.limits.defaultLimit)
    request.model.limits.maxLimit

def offset (request : PageRequest) : Nat :=
  (request.page - 1) * request.limit

def search (request : PageRequest) : Option Text :=
  request.search?

def direction (request : PageRequest) : SortDirection :=
  request.sort?.getD .descending

def order (request : PageRequest) : Option OrderChoice :=
  request.order?.or (request.model.defaultOrder?.map .member)

def orderMember? (request : PageRequest) : Option OrderEntry :=
  match request.order with
  | some (.member entry) => some entry
  | _ => none

/-! ## Reading -/

/-- Where the raw value of a parameter is found, and under which name. -/
abbrev Source := Parameter → Option (Text × Json)

def ofQuery (query : Members) : Source := fun parameter =>
  (Members.find? parameter.wireName query).map fun value =>
    (parameter.wireName, value)

/-- The parameters among keywords.  A parameter goes by its name in a query or
else by the name of its attribute. -/
def ofKeywords (keywords : Members) : Source := fun parameter =>
  match Members.find? parameter.wireName keywords with
  | some value => some (parameter.wireName, value)
  | none =>
      (Members.find? parameter.attributeName keywords).map fun value =>
        (parameter.attributeName, value)

def readParameter {α : Type} (source : Source) (parameter : Parameter)
    (read : Json → Except Complaint α) : Checked (Option α) :=
  match source parameter with
  | some (name, value) => Checked.ofMember name (Json.asOptional read value)
  | none => .ok none

def asDirection : Json → Except Complaint SortDirection
  | .str text =>
      match SortDirection.ofWire? text with
      | some direction => .ok direction
      | none => .error (.noChoice (SortDirection.all.map (·.wire)))
  | _ => .error (.noChoice (SortDirection.all.map (·.wire)))

/-- The complaint about a value that is no member of an enumeration.  It lists
the wire forms of all entries. -/
def noMember (orders : OrderEnum) : Complaint :=
  .noChoice orders.entryWires

def asOrder (model : RequestModel) (value : Json) : Except Complaint OrderChoice :=
  match model.orderRule, value with
  | .anything, value => .ok (.raw value)
  | .among orders _, .str wire =>
      match orders.ofWire? wire with
      | some entry => .ok (.member entry)
      | none => .error (noMember orders)
  | .among orders _, _ => .error (noMember orders)

def read (model : RequestModel) (source : Source) : Checked PageRequest :=
  (Checked.both (readParameter source .page (Json.asNatural 1))
    (Checked.both (readParameter source .limit (Json.asNatural 0))
      (Checked.both (readParameter source .search Json.asText)
        (Checked.both (readParameter source .sort asDirection)
          (readParameter source .order (asOrder model)))))).map
    fun (page?, limit?, search?, sort?, order?) =>
      { model, page?, limit?, search?, sort?, order? }

def construct (model : RequestModel) (keywords : Members) : Checked PageRequest :=
  read model (ofKeywords keywords)

/-- The message for an issue about a query, with the parameter it concerns. -/
def queryError (model : RequestModel) (query : Members) (issue : Issue) :
    Option (Parameter × Text) :=
  match issue.place with
  | .member name :: _ =>
      (Parameter.ofWireName? name).map fun parameter =>
        (parameter, parameter.message model.allowedOrders
          ((Members.find? name query).getD .null))
  | _ => none

/-- The fault of a query, with the messages of each parameter together. -/
def queryFault (model : RequestModel) (query : Members) (issues : List Issue) :
    Fault :=
  let errors := (issues.filterMap (queryError model query)).foldl
    (fun errors found => ParameterErrors.add found.1.wireName found.2 errors) []
  if Parameter.order.wireName ∈ errors.map (·.1) then
    .unknownOrder errors model.allowedOrders
  else .malformed errors

/-- A request from a query.  Issues become the fault of the query. -/
def decode (model : RequestModel) (query : Members) : Except Failure PageRequest :=
  match read model (ofQuery query) with
  | .ok request => .ok request
  | .error issues =>
      match Failure.ofIssues issues with
      | .invalid issues => .error (.fault (queryFault model query issues))
      | failure => .error failure

/-! ## Changing -/

/-- The attributes that belong to the model and not to a request. -/
def modelAttributes : List Text :=
  ["default_page", "default_limit", "max_limit", "order_enum", "default_order"]

def fixedAttributes : List Text :=
  ["__weakref__", "__fields_set__"]

/-- The attributes by which, besides its parameters, a request is compared.
They are null unless something is assigned to them. -/
def comparedAttributes : List Text :=
  ["__pydantic_extra__", "__pydantic_private__"]

def holder : Text := "__dict__"

/-- The outcome of an assignment to an attribute of a request.  Attributes of
the model cannot be reached, those of a request never change, and only names
that start with an underscore are free. -/
def assign (name : Text) (value : Json) : Except Failure Unit :=
  if name ∈ modelAttributes then .error .missingAttribute
  else if !name.startsWith "_" then
    .error (.invalid [{ place := [.member name], complaint := .frozen }])
  else if name ∈ fixedAttributes then .error .missingAttribute
  else if name = "__class__" then .error .wrongType
  else if name = holder then
    match value with
    | .obj _ => .ok ()
    | _ => .error .wrongType
  else .ok ()

def isNull : Json → Bool
  | .null => true
  | _ => false

def assigned? (name : Text) (assignments : Members) : Option Json :=
  Members.find? name assignments.reverse

/-- A request compares equal to what it was before these assignments. -/
def isKept (assignments : Members) : Bool :=
  comparedAttributes.all (fun name =>
    isNull ((assigned? name assignments).getD .null)) &&
  !(assignments.any fun assignment =>
    assignment.1 == holder && (assign assignment.1 assignment.2).isOk)

end PageRequest

end Folio
