import Folio.Failure
import Folio.FieldSet

/-!
# Orders

The directions of a listing, and the enumeration of the orders that clients may
ask for.  Each identifier of a field set is an entry of the enumeration.  The
first entry with a wire form is a member; a later one with the same wire form is
another name of that member.  Some identifiers with underscores at both ends are
no entries: they are passed over, or no enumeration takes them.
-/

namespace Folio

inductive SortDirection
  | ascending
  | descending
  deriving DecidableEq

namespace SortDirection

def wire : SortDirection → Text
  | ascending => "asc"
  | descending => "desc"

def all : List SortDirection := [ascending, descending]

def ofWire? (text : Text) : Option SortDirection :=
  all.find? (·.wire == text)

@[simp]
theorem ofWire?_wire (direction : SortDirection) :
    ofWire? direction.wire = some direction := by
  cases direction <;> rfl

end SortDirection

structure OrderEntry where
  identifier : Text
  wire : Text
  deriving DecidableEq

structure OrderEnum where
  name : Text
  entries : List OrderEntry
  /-- What is said about the enumeration itself, under identifiers that it passes
  over. -/
  asides : List OrderEntry
  deriving DecidableEq

namespace OrderEntry

def ofIdentifier (identifier : Text) : OrderEntry where
  identifier
  wire := Identifier.camelize identifier

/-- The text has exactly `width` underscores at its front and at its end, and
something between them. -/
def isFenced (width : Nat) (characters : List CodePoint) : Bool :=
  let fence := List.replicate width Identifier.separator
  let backwards := characters.reverse
  decide (2 * width < characters.length) &&
    fence.isPrefixOf characters && fence.isPrefixOf backwards &&
    (characters.drop width).head? != some Identifier.separator &&
    (backwards.drop width).head? != some Identifier.separator

def isPrivate (enumName identifier : Text) : Bool :=
  let twice := [Identifier.separator, Identifier.separator]
  let fence := Identifier.separator :: enumName.toList ++ twice
  let characters := identifier.toList
  decide (fence.length < characters.length) && fence.isPrefixOf characters &&
    !(twice.isPrefixOf characters.reverse)

/-- The identifiers with an underscore at each end that have a meaning of their
own to every enumeration. -/
def reserved : List Text :=
  ["_generate_next_value_", "_ignore_", "_iter_member_", "_iter_member_by_def_",
    "_iter_member_by_value_", "_missing_", "_numeric_repr_"]

/-- The identifiers that would take the place of something without which no
enumeration can be made. -/
def essential : List Text :=
  ["_order_", "__order__", "__classcell__", "__getattr__", "__getattribute__",
    "__init__", "__new__", "__setattr__"]

def isSkipped (enumName identifier : Text) : Bool :=
  isPrivate enumName identifier || isFenced 2 identifier.toList ||
    reserved.contains identifier

def isForbidden (enumName identifier : Text) : Bool :=
  identifier == "" || identifier == "mro" || identifier == "__slots__" ||
    (isFenced 1 identifier.toList && !isPrivate enumName identifier &&
      !reserved.contains identifier && !essential.contains identifier)

end OrderEntry

namespace Text

/-- Types are not named after a text that cannot be encoded or that holds a null
character. -/
def checkTypeName (text : Text) : Except Failure Unit :=
  if !text.isEncodable then .error .unencodable
  else if text.toList.contains '\x00' then .error .badValue
  else .ok ()

def canNameType (text : Text) : Bool :=
  text.checkTypeName.isOk

theorem checkTypeName_eq_ok_iff {text : Text} :
    text.checkTypeName = .ok () ↔ text.canNameType = true := by
  unfold canNameType
  cases text.checkTypeName <;> simp [Except.isOk, Except.toBool]

theorem canNameType_iff {text : Text} :
    text.canNameType = true ↔
      text.isEncodable = true ∧ CodePoint.ofChar '\x00' ∉ text.toList := by
  rw [← checkTypeName_eq_ok_iff, checkTypeName]
  cases text.isEncodable <;> simp

@[simp]
theorem canNameType_ofString {string : String} :
    (ofString string).canNameType = true ↔ '\x00' ∉ string.toList := by
  simp [canNameType_iff]

end Text

namespace OrderEnum

def nameFor (entity : Text) : Text :=
  entity ++ "PaginationOrder"

/-- The enumeration for an entity, after which its type is named. -/
def build (entity : Text) (fieldSet : FieldSet) : Except Failure OrderEnum := do
  let name := nameFor entity
  if fieldSet.fields.any (OrderEntry.isForbidden name) then .error .badValue
  entity.checkTypeName
  if fieldSet.fields.any OrderEntry.essential.contains then .error .wrongType
  let (skipped, kept) := fieldSet.fields.partition (OrderEntry.isSkipped name)
  return {
    name
    entries := kept.map OrderEntry.ofIdentifier
    asides := skipped.map OrderEntry.ofIdentifier }

def aside? (orders : OrderEnum) (identifier : Text) : Option Text :=
  (orders.asides.find? (·.identifier == identifier)).map (·.wire)

def description? (orders : OrderEnum) : Option Text :=
  orders.aside? "__doc__"

def definedName (orders : OrderEnum) : Text :=
  (orders.aside? "__qualname__").getD orders.name

def ofWire? (orders : OrderEnum) (wire : Text) : Option OrderEntry :=
  orders.entries.find? (·.wire == wire)

def entry? (orders : OrderEnum) (identifier : Text) : Option OrderEntry :=
  orders.entries.find? (·.identifier == identifier)

def member? (orders : OrderEnum) (identifier : Text) : Option OrderEntry :=
  (orders.entry? identifier).bind fun entry => orders.ofWire? entry.wire

/-- The member under a raw identifier.  Lists and objects cannot be looked
up. -/
def memberOf (orders : OrderEnum) : Json → Except Failure OrderEntry
  | .str identifier =>
      match orders.member? identifier with
      | some member => .ok member
      | none => .error (.unknownKey (.str identifier))
  | .arr _ => .error .wrongType
  | .obj _ => .error .wrongType
  | other => .error (.unknownKey other)

def isMember (orders : OrderEnum) (entry : OrderEntry) : Bool :=
  orders.ofWire? entry.wire == some entry

def members (orders : OrderEnum) : List OrderEntry :=
  orders.entries.filter orders.isMember

/-- The entries that are another name of a member, each with that member. -/
def aliases (orders : OrderEnum) : List (OrderEntry × OrderEntry) :=
  orders.entries.filterMap fun entry =>
    if orders.isMember entry then none
    else (orders.ofWire? entry.wire).map fun member => (entry, member)

def wires (orders : OrderEnum) : List Text :=
  orders.members.map (·.wire)

def entryWires (orders : OrderEnum) : List Text :=
  orders.entries.map (·.wire)

end OrderEnum

end Folio
