import Folio.Entity
import Folio.PageRequest

/-!
# Pages

One page of a listing with the total number of items and pages.  The number of
pages is the ceiling of a quotient that is first rounded to a binary floating
point number.
-/

namespace Folio

/-- One page of a listing, with its items as they are written. -/
structure Page where
  total : Nat
  page : Nat
  pages : Nat
  items : List Json

inductive ItemType
  | plain (type : ValueType)
  | entity (model : EntityModel)

namespace ItemType

def read (fresh : Fresh) : ItemType → Json → Checked Json
  | plain type, value => Checked.here (type.read value)
  | entity model, value => model.read fresh value

def readItems (fresh : Nat → Fresh) (itemType : ItemType) (values : List Json) :
    Checked (List Json) :=
  Checked.all (values.mapIdx fun index value =>
    Checked.within (.item index) (itemType.read (fresh index) value))

end ItemType

namespace Page

def itemsOf (fresh : Nat → Fresh) (itemType : ItemType) (members : Members) :
    Checked (List Json) :=
  match Members.find? "data" members with
  | none => Checked.ofMember "data" (.error .missing)
  | some (.arr values) =>
      Checked.within (.member "data") (itemType.readItems fresh values)
  | some _ => Checked.ofMember "data" (.error .notList)

def ofMembers (fresh : Nat → Fresh) (itemType : ItemType) (members : Members) :
    Checked Page :=
  (Checked.both (Members.required "total" (Json.asNatural 0) members)
    (Checked.both (Members.required "page" (Json.asNatural 0) members)
      (Checked.both (Members.required "pages" (Json.asNatural 0) members)
        (itemsOf fresh itemType members)))).map
    fun (total, page, pages, items) => { total, page, pages, items }

/-- A page from a raw value.  Its numbers are not compared with each other. -/
def ofJson (fresh : Nat → Fresh) (itemType : ItemType) : Json → Checked Page :=
  Members.whole .notObject (ofMembers fresh itemType)

def toJson (page : Page) : Json :=
  .obj [("total", .ofNat page.total), ("page", .ofNat page.page),
    ("pages", .ofNat page.pages), ("data", .arr page.items)]

/-! ## The number of pages -/

def ceilingOf : Binary64 → Except Failure Int
  | .finite negative significand exponent =>
      .ok (Binary64.ceiling negative significand exponent)
  | .infinite _ => .error .outOfRange
  | .notNumber => .error .badValue

/-- The number of pages for a raw total.  An empty page has none. -/
def pageCount (total : Json) (limit : Nat) : Except Failure Int :=
  if limit = 0 then .ok 0
  else
    match total with
    | .int number => ceilingOf (Binary64.quotient number limit)
    | .bool flag => ceilingOf (Binary64.quotient (if flag then 1 else 0) limit)
    | .real number =>
        match Binary64.ofInt limit with
        | .finite _ significand exponent =>
            ceilingOf (number.divideBy significand exponent)
        | _ => .error .outOfRange
    | _ => .error .wrongType

/-- The parts of a value that can be listed: items, characters or names. -/
def elements : Json → Except Failure (List Json)
  | .arr items => .ok items
  | .str text => .ok (text.toList.map fun point => .str (.ofList [point]))
  | .obj members => .ok (members.map fun member => .str member.1)
  | _ => .error .wrongType

def ofRequest (fresh : Nat → Fresh) (itemType : ItemType) (items total : Json)
    (request : PageRequest) : Except Failure Page := do
  let pages ← pageCount total request.limit
  let listed ← elements items
  (ofMembers fresh itemType
    [("total", total), ("page", .ofNat request.page), ("pages", .int pages),
      ("data", .arr listed)]).orFail

def ofEntities (items : List Json) (total : Nat) (request : PageRequest) :
    Except Failure Page := do
  let pages ← pageCount (.ofNat total) request.limit
  return { total, page := request.page, pages := pages.toNat, items }

end Page

end Folio
