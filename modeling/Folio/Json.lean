import Folio.Binary64
import Folio.Text

/-!
# JSON values

Raw values as clients send them.  An object keeps its members in the order in
which their names first appeared, and integers are kept apart from numbers that
were written with a point or an exponent.  A string is any text: one with half of
a surrogate pair can be kept but not written.
-/

namespace Folio

inductive Json
  | null
  | bool (value : Bool)
  | int (value : Int)
  | real (value : Binary64)
  | str (value : Text)
  | arr (items : List Json)
  | obj (members : List (Text × Json))
  deriving Inhabited

abbrev Members := List (Text × Json)

namespace Members

def find? (name : Text) : Members → Option Json
  | [] => none
  | (key, value) :: later => if key = name then some value else find? name later

/-- The members after one assignment.  An existing name keeps its position. -/
def insert (name : Text) (value : Json) : Members → Members
  | [] => [(name, value)]
  | (key, present) :: later =>
      if key = name then (key, value) :: later
      else (key, present) :: insert name value later

/-- The members after a sequence of assignments: of equal names the last value
counts. -/
def ofList (assignments : List (Text × Json)) : Members :=
  assignments.foldl (fun members assignment =>
    insert assignment.1 assignment.2 members) []

/-- The member with a name, if there is a value for it. -/
def optional (name : Text) : Option Json → Members
  | some value => [(name, value)]
  | none => []

@[simp]
theorem find?_insert_self (name : Text) (value : Json) (members : Members) :
    find? name (insert name value members) = some value := by
  induction members with
  | nil => simp [insert, find?]
  | cons member later inductionHypothesis =>
      obtain ⟨key, present⟩ := member
      by_cases same : key = name <;>
        simp [insert, find?, same, inductionHypothesis]

theorem find?_insert_other {name other : Text} (different : other ≠ name)
    (value : Json) (members : Members) :
    find? other (insert name value members) = find? other members := by
  induction members with
  | nil => simp [insert, find?, Ne.symm different]
  | cons member later inductionHypothesis =>
      obtain ⟨key, present⟩ := member
      by_cases same : key = name
      · subst same
        simp [insert, find?, Ne.symm different]
      · simp only [insert, same, ↓reduceIte, find?, inductionHypothesis]

end Members

namespace Json

/-- The value of a member, if the value is an object that has it. -/
def member? (name : Text) : Json → Option Json
  | .obj members => Members.find? name members
  | _ => none

/-- A value counts as set unless it is null, false, a zero or empty. -/
def isTruthy : Json → Bool
  | .null => false
  | .bool value => value
  | .int value => value != 0
  | .real value => !value.isZero
  | .str value => value != ""
  | .arr items => !items.isEmpty
  | .obj members => !members.isEmpty

mutual

/-- The value can be written: its numbers are finite, and its strings and the names
of its members can be encoded. -/
def isWritable : Json → Bool
  | .real value => value.isFinite
  | .str value => value.isEncodable
  | .arr items => areWritable items
  | .obj members => areWritableMembers members
  | _ => true

def areWritable : List Json → Bool
  | [] => true
  | item :: later => isWritable item && areWritable later

def areWritableMembers : List (Text × Json) → Bool
  | [] => true
  | (name, value) :: later =>
      name.isEncodable && isWritable value && areWritableMembers later

end

def ofText? : Option Text → Json
  | some text => .str text
  | none => .null

def ofNat (value : Nat) : Json :=
  .int (Int.ofNat value)

end Json

end Folio
