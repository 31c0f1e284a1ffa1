import Folio.Proofs.RefusedParameter

/-!
# Queries of a single parameter

Each parameter of a query is judged and read as if it stood alone.  What a query is
refused for, and what an accepted one asks for, is put together from the queries of
its single parameters.
-/

namespace Folio.PageRequest

variable {model : RequestModel} {source : Source} {query changed : Members}
  {request : PageRequest} {parameter other : Parameter}

/-! ## Leaving out the other parameters -/

/-- The query of nothing but this parameter, if it is given. -/
def single (query : Members) (parameter : Parameter) : Members :=
  ((Members.find? parameter.wireName query).map fun raw =>
    (parameter.wireName, raw)).toList

/-- The source of nothing but this parameter. -/
def Source.single (source : Source) (parameter : Parameter) : Source := fun other =>
  if other = parameter then source other else none

end Folio.PageRequest
