import Folio.Entity
import Folio.FieldSet.Resolution
import Folio.Page
import Folio.RequestModel

/-!
# Contracts

What is settled about the listings of one entity type: its schema, the
identifiers it can be ordered by, and how requests for its pages are read.
-/

namespace Folio

structure Contract where
  schema : EntitySchema
  fieldSet : FieldSet
  orders : OrderEnum
  requestModel : RequestModel
  response? : Option EntityModel

namespace Contract

def entityName (contract : Contract) : String :=
  contract.schema.name

def ofOrders (schema : EntitySchema) (fieldSet : FieldSet) (orders : OrderEnum)
    (limits : PageLimits) (response? : Option EntityModel) :
    Except Failure Contract := do
  let requestModel ←
    RequestModel.ofOrders schema.name orders fieldSet.default limits
  return { schema, fieldSet, orders, requestModel, response? }

def build (schema : EntitySchema) (limits : PageLimits)
    (response? : Option EntityModel) : Except Failure Contract := do
  let fieldSet ← schema.resolve.mapError .fault
  let orders ← OrderEnum.build schema.name fieldSet
  ofOrders schema fieldSet orders limits response?

/-- The field behind an identifier.  The creation time leads to its own field
where no orderable field has that identifier. -/
def columnFor (contract : Contract) (identifier : Text) :
    Except Failure Text :=
  match contract.schema.orderableFields.find? fun field =>
      Identifier.capitalize field.name == identifier with
  | some field => .ok field.name
  | none =>
      if identifier = Identifier.createdAt then .ok Identifier.createdAtField
      else
        .error (.unknownKey (.str ("'" ++ identifier ++
          "' is not an order field of " ++ contract.entityName)))

/-- The page of raw items that answers a request.  Without an entity type there
are no pages. -/
def page (fresh : Nat → Fresh) (contract : Contract) (items total : Json)
    (request : PageRequest) : Except Failure Page :=
  match contract.response? with
  | some model => Page.ofRequest fresh (.entity model) items total request
  | none => .error .missingAttribute

end Contract

end Folio
