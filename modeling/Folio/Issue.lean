import Folio.Json.Literal

/-!
# Validation issues

What is wrong with a raw value and where.  A check collects the issues of all its
parts, in the order of the parts.
-/

namespace Folio

inductive Place
  | member (name : Text)
  | item (index : Nat)
  deriving DecidableEq

inductive Complaint
  | missing
  | notObject
  | bodyNotObject
  | notText
  | unreadableText
  | tooShort (minimum : Nat)
  | notFlag
  | unreadableFlag
  | notInteger
  | unreadableInteger
  | oversizedInteger
  | fractionalInteger
  | notFinite
  | belowMinimum (minimum : Int)
  | notList
  /-- The value is no list where a fixed sequence is expected. -/
  | notSequence
  | noChoice (choices : List Text)
  | notMoment
  | unreadableMoment
  | momentOutOfRange
  | notUuid
  | unreadableUuid
  | notJson
  | brokenRule (rule : Text)
  | frozen
  | unexpected
  deriving DecidableEq

namespace Complaint

def code : Complaint → String
  | .missing => "missing"
  | .notObject => "model_type"
  | .bodyNotObject => "model_attributes_type"
  | .notText => "string_type"
  | .unreadableText => "string_unicode"
  | .tooShort _ => "string_too_short"
  | .notFlag => "bool_type"
  | .unreadableFlag => "bool_parsing"
  | .notInteger => "int_type"
  | .unreadableInteger => "int_parsing"
  | .oversizedInteger => "int_parsing_size"
  | .fractionalInteger => "int_from_float"
  | .notFinite => "finite_number"
  | .belowMinimum _ => "greater_than_equal"
  | .notList => "list_type"
  | .notSequence => "tuple_type"
  | .noChoice _ => "enum"
  | .notMoment => "datetime_type"
  | .unreadableMoment => "datetime_parsing"
  | .momentOutOfRange => "datetime_out_of_range"
  | .notUuid => "uuid_type"
  | .unreadableUuid => "uuid_parsing"
  | .notJson => "json_invalid"
  | .brokenRule _ => "value_error"
  | .frozen => "frozen_instance"
  | .unexpected => "extra_forbidden"

/-- Choices as a sentence lists them: each in quotes, commas between them and
"or" before the last. -/
def listChoices (choices : List Text) : Text :=
  match (choices.map Json.quoted).reverse with
  | [] => ""
  | [only] => only
  | final :: others => Text.intercalate ", " others.reverse ++ " or " ++ final

/-- The sentence that goes with a complaint, where it has one of its own. -/
def sentence? : Complaint → Option Text
  | .tooShort minimum =>
      some ("String should have at least " ++ toString minimum ++
        (if minimum = 1 then " character" else " characters"))
  | .belowMinimum minimum =>
      some ("Input should be greater than or equal to " ++ toString minimum)
  | .noChoice choices => some ("Input should be " ++ listChoices choices)
  | .brokenRule rule => some ("Value error, " ++ rule)
  | .frozen => some "Instance is frozen"
  | .unexpected => some "Extra inputs are not permitted"
  | _ => none

end Complaint

structure Issue where
  place : List Place
  complaint : Complaint
  deriving DecidableEq

/-- The outcome of a check: the checked value, or everything that is wrong. -/
abbrev Checked (α : Type) := Except (List Issue) α

namespace Checked

def here {α : Type} : Except Complaint α → Checked α
  | .ok value => .ok value
  | .error complaint => .error [{ place := [], complaint }]

/-- The outcome for a member, with the complaint put at its name. -/
def ofMember {α : Type} (name : Text) : Except Complaint α → Checked α
  | .ok value => .ok value
  | .error complaint => .error [{ place := [.member name], complaint }]

def within {α : Type} (place : Place) : Checked α → Checked α
  | .ok value => .ok value
  | .error issues =>
      .error (issues.map fun issue => { issue with place := place :: issue.place })

def both {α β : Type} : Checked α → Checked β → Checked (α × β)
  | .ok first, .ok second => .ok (first, second)
  | .ok _, .error issues => .error issues
  | .error issues, .ok _ => .error issues
  | .error first, .error second => .error (first ++ second)

/-- All checks of a list; the issues of all are kept. -/
def all {α : Type} : List (Checked α) → Checked (List α)
  | [] => .ok []
  | check :: later => (both check (all later)).map fun pair => pair.1 :: pair.2

/-- The checks of the items of a list, with each issue put at its index. -/
def items {α β : Type} (check : α → Checked β) (values : List α) :
    Checked (List β) :=
  all (values.mapIdx fun index value => within (.item index) (check value))

def broken {α : Type} (rule : Text) : Checked α :=
  .error [{ place := [], complaint := .brokenRule rule }]

theorem both_eq_ok_iff {α β : Type} {first : Checked α} {second : Checked β}
    {pair : α × β} :
    both first second = .ok pair ↔
      first = .ok pair.1 ∧ second = .ok pair.2 := by
  obtain ⟨left, right⟩ := pair
  cases first <;> cases second <;> simp [both]

end Checked

end Folio
