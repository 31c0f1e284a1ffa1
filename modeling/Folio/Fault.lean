import Folio.Json

/-!
# Faults of paging contracts

What can go wrong while entities are registered and page requests are decoded,
with the message of each fault and the answer that a client gets.
-/

namespace Folio

abbrev ParameterErrors := List (Text × List Text)

inductive Fault
  | general (message : Text)
  /-- A field has no identifier of its own: two fields share one, or the name of
  a single field yields none. -/
  | conflict (identifier first : Text) (second? : Option Text)
  | registration (message : Text)
  | notRegistered (message : Text)
  | request (errors : ParameterErrors)
  /-- A request asks for an order that is not among the allowed ones. -/
  | unknownOrder (errors : ParameterErrors) (allowed : List Text)
  | malformed (errors : ParameterErrors)
  deriving DecidableEq

inductive FaultKind
  | general
  | conflict
  | registration
  | notRegistered
  | request
  | unknownOrder
  | malformed
  deriving DecidableEq

namespace FaultKind

def parent? : FaultKind → Option FaultKind
  | general => none
  | conflict => some general
  | registration => some general
  | notRegistered => some general
  | request => some general
  | unknownOrder => some request
  | malformed => some request

/-- A kind and those of which it is a special case, from the narrowest to the
widest. -/
def ancestry : FaultKind → List FaultKind
  | general => [general]
  | conflict => [conflict, general]
  | registration => [registration, general]
  | notRegistered => [notRegistered, general]
  | request => [request, general]
  | unknownOrder => [unknownOrder, request, general]
  | malformed => [malformed, request, general]

theorem ancestry_eq (kind : FaultKind) :
    kind.ancestry =
      kind :: (match kind.parent? with
        | some parent => parent.ancestry
        | none => []) := by
  cases kind <;> rfl

end FaultKind

structure Answer where
  status : Nat
  body : Json

namespace Answer

def detail (status : Nat) (sentence : Text) : Answer :=
  { status, body := .obj [("detail", .str sentence)] }

def internalError : Answer :=
  detail 500 "An internal server error occurred."

end Answer

namespace ParameterErrors

/-- The errors with one more message about a parameter, after those it already
has. -/
def add (parameter message : Text) : ParameterErrors → ParameterErrors
  | [] => [(parameter, [message])]
  | (name, messages) :: later =>
      if name = parameter then (name, messages ++ [message]) :: later
      else (name, messages) :: add parameter message later

def summary (errors : ParameterErrors) : Text :=
  Text.intercalate ", " (errors.map fun entry =>
    entry.1 ++ ": [" ++ Text.intercalate ", " entry.2 ++ "]")

def toJson (errors : ParameterErrors) : Json :=
  .obj (errors.map fun entry => (entry.1, .arr (entry.2.map .str)))

end ParameterErrors

namespace Fault

def alreadyRegistered (entity : Text) : Fault :=
  .registration ("Entity '" ++ entity ++ "' is already registered")

def noContract (entity : Text) : Fault :=
  .notRegistered ("No pagination contract registered for '" ++ entity ++ "'")

def kind : Fault → FaultKind
  | .general _ => .general
  | .conflict _ _ _ => .conflict
  | .registration _ => .registration
  | .notRegistered _ => .notRegistered
  | .request _ => .request
  | .unknownOrder _ _ => .unknownOrder
  | .malformed _ => .malformed

def message : Fault → Text
  | .general message => message
  | .conflict _ first none =>
      "Field '" ++ first ++ "' does not produce a usable order identifier"
  | .conflict identifier first (some second) =>
      "Fields '" ++ first ++ "' and '" ++ second ++
        "' both resolve to order identifier '" ++ identifier ++ "'"
  | .registration message => message
  | .notRegistered message => message
  | .request errors => "Invalid pagination parameters: " ++ errors.summary
  | .unknownOrder errors _ => "Invalid pagination parameters: " ++ errors.summary
  | .malformed errors => "Invalid pagination parameters: " ++ errors.summary

/-- The errors of the parameters, for the faults of a request. -/
def parameterErrors? : Fault → Option ParameterErrors
  | .request errors => some errors
  | .unknownOrder errors _ => some errors
  | .malformed errors => some errors
  | _ => none

/-- The answer that a client gets.  Faults of a request are reported parameter
by parameter, an unknown entity by its message, and the rest without
details. -/
def answer (fault : Fault) : Answer :=
  match fault.parameterErrors? with
  | some errors => { status := 422, body := .obj [("errors", errors.toJson)] }
  | none =>
      match fault with
      | .notRegistered message => .detail 404 message
      | _ => .internalError

end Fault

end Folio
