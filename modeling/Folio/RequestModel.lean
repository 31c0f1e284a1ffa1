import Folio.Order
import Folio.Settings

/-!
# Request models

How the page requests for one entity type are read: the limits that were in
force when the model was built, and the orders that clients may ask for.
-/

namespace Folio

inductive OrderRule
  /-- Any raw value is taken as it is, and nothing is the default. -/
  | anything
  /-- A member of an enumeration; one of them is the default. -/
  | among (orders : OrderEnum) (default : OrderEntry)
  deriving DecidableEq

structure RequestModel where
  name : Text
  limits : PageLimits
  orderRule : OrderRule
  deriving DecidableEq

namespace RequestModel

def plain : RequestModel where
  name := "PaginationRequest"
  limits := .standard
  orderRule := .anything

def nameFor (entity : Text) : Text :=
  entity ++ "PaginationRequest"

/-- The model for an enumeration of orders.  Its type is named after the entity, all
wire forms have to be encoded in its description, and the default has to name a
member. -/
def ofOrders (entity : Text) (orders : OrderEnum) (default : Text)
    (limits : PageLimits) : Except Failure RequestModel := do
  entity.checkTypeName
  if orders.entryWires.all Text.isEncodable then
    match orders.member? default with
    | some member =>
        .ok { name := nameFor entity, limits, orderRule := .among orders member }
    | none => .error (.unknownKey (.str default))
  else .error .unusableDescription

def build (entity : Text) (fieldSet : FieldSet) (limits : PageLimits) :
    Except Failure RequestModel := do
  let orders ← OrderEnum.build entity fieldSet
  ofOrders entity orders fieldSet.default limits

def orders? (model : RequestModel) : Option OrderEnum :=
  match model.orderRule with
  | .anything => none
  | .among orders _ => some orders

def defaultOrder? (model : RequestModel) : Option OrderEntry :=
  match model.orderRule with
  | .anything => none
  | .among _ default => some default

def allowedOrders (model : RequestModel) : List Text :=
  match model.orders? with
  | some orders => orders.wires
  | none => []

end RequestModel

end Folio
