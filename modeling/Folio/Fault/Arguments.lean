import Folio.Failure
import Folio.Json.Literal

/-!
# Faults from what is said about them

The fault of a kind, made from the raw values that are said about it, in order.
Each kind but the plain ones takes a fixed number of them.
-/

namespace Folio.Fault

/-- The message that raw values make up: nothing, one value as it is shown, or
all of them in a list of their own. -/
def messageOf : List Json → Text
  | [] => ""
  | [value] => value.shown
  | values => "(" ++ Json.literalItems values ++ ")"

def textOf : Json → Except Failure Text
  | .str text => .ok text
  | _ => .error .wrongType

def textsOf : Json → Except Failure (List Text)
  | .arr values => values.mapM textOf
  | _ => .error .wrongType

/-- A parameter with its messages.  A list of another length is of the right
kind, but no use. -/
def parameterEntry : Json → Except Failure (Text × List Text)
  | .arr [name, messages] => return (name.shown, ← textsOf messages)
  | .arr _ => .error .badValue
  | _ => .error .wrongType

/-- The errors after those of one more parameter.  A parameter keeps its
place. -/
def insertErrors (name : Text) (messages : List Text) :
    ParameterErrors → ParameterErrors
  | [] => [(name, messages)]
  | (present, earlier) :: later =>
      if present = name then (name, messages) :: later
      else (present, earlier) :: insertErrors name messages later

/-- The errors of the parameters in a list of pairs.  Of a repeated parameter
the last messages count. -/
def errorsOf : Json → Except Failure ParameterErrors
  | .arr pairs => do
      let entries ← pairs.mapM parameterEntry
      return entries.foldl (fun errors entry =>
        insertErrors entry.1 entry.2 errors) []
  | _ => .error .wrongType

/-- The second field of a conflict, unless it is left open. -/
def otherField? : Json → Option Text
  | .null => none
  | value => some value.shown

def ofArguments (kind : FaultKind) (arguments : List Json) :
    Except Failure Fault :=
  match kind, arguments with
  | .general, _ => .ok (.general (messageOf arguments))
  | .registration, _ => .ok (.registration (messageOf arguments))
  | .notRegistered, _ => .ok (.notRegistered (messageOf arguments))
  | .conflict, [identifier, first] =>
      .ok (.conflict identifier.shown first.shown none)
  | .conflict, [identifier, first, second] =>
      .ok (.conflict identifier.shown first.shown (otherField? second))
  | .request, [errors] => (errorsOf errors).map .request
  | .malformed, [errors] => (errorsOf errors).map .malformed
  | .unknownOrder, [errors, allowed] =>
      return .unknownOrder (← errorsOf errors) (← textsOf allowed)
  | _, _ => .error .wrongType

end Folio.Fault
