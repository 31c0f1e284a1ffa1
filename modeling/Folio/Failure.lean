import Folio.Fault
import Folio.Issue

/-!
# Failures

Everything that can stop an operation.
-/

namespace Folio

inductive Failure
  | fault (fault : Fault)
  | invalid (issues : List Issue)
  | unknownKey (key : Json)
  | missingAttribute
  /-- A value is not of a kind that the operation can use. -/
  | wrongType
  | badValue
  | outOfRange
  | endlessReference
  | unreadableSettings
  | unwritable
  /-- A text that holds half of a surrogate pair is to be the name of a type. -/
  | unencodable
  /-- A type of requests cannot be made from its description. -/
  | unusableDescription

namespace Failure

/-- The failure that a complaint amounts to when it is no matter of
validity. -/
def ofComplaint? : Complaint → Option Failure
  | .momentOutOfRange => some outOfRange
  | _ => none

/-- The failure of a check.  What is no matter of validity goes before all
complaints. -/
def ofIssues (issues : List Issue) : Failure :=
  (issues.findSome? fun issue => ofComplaint? issue.complaint).getD
    (.invalid issues)

def answer : Failure → Answer
  | .fault cause => cause.answer
  | _ => .internalError

end Failure

/-- Steps in a row succeed exactly if each of them does. -/
theorem bind_eq_ok_iff {ε α β : Type} {outcome : Except ε α} {next : α → Except ε β}
    {result : β} :
    (outcome >>= next) = .ok result ↔
      ∃ value, outcome = .ok value ∧ next value = .ok result := by
  cases outcome <;> simp [bind, Except.bind]

theorem map_eq_ok_iff {ε α β : Type} {outcome : Except ε α} {convert : α → β}
    {result : β} :
    outcome.map convert = .ok result ↔
      ∃ value, outcome = .ok value ∧ convert value = result := by
  cases outcome <;> simp [Except.map]

namespace Checked

def orFail {α : Type} : Checked α → Except Failure α
  | .ok value => .ok value
  | .error issues => .error (.ofIssues issues)

theorem orFail_eq_ok_iff {α : Type} {check : Checked α} {value : α} :
    check.orFail = .ok value ↔ check = .ok value := by
  cases check <;> simp [orFail]

end Checked

end Folio
