import Folio.Issue
import Folio.Json

/-!
# Reading records

Readings of single members of an object.  Members that no reading asks for are
ignored.
-/

namespace Folio.Members

def required {α : Type} (name : Text) (read : Json → Except Complaint α)
    (members : Members) : Checked α :=
  match find? name members with
  | some value => Checked.ofMember name (read value)
  | none => Checked.ofMember name (.error .missing)

def defaulted {α : Type} (name : Text) (fallback : α)
    (read : Json → Except Complaint α) (members : Members) : Checked α :=
  match find? name members with
  | some value => Checked.ofMember name (read value)
  | none => .ok fallback

/-- A reading of a whole object; anything else is refused with a complaint. -/
def whole {α : Type} (complaint : Complaint) (read : Members → Checked α) :
    Json → Checked α
  | .obj members => read members
  | _ => Checked.here (.error complaint)

end Folio.Members
