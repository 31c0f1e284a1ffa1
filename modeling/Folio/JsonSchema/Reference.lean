import Folio.Failure
import Folio.JsonSchema

/-!
# Inlining references

Every reference to a definition is replaced by that definition, in which the
references are replaced in turn.  Following a reference takes its name off the
definitions that may still be followed, so a loop is found when a name is met
again on the way.
-/

namespace Folio.JsonSchema

def lastSegment (text : Text) : Text :=
  .ofList ((text.toList.reverse.takeWhile (· != CodePoint.ofChar '/')).reverse)

def referenceName? (members : Members) : Option Text :=
  match Members.find? "$ref" members with
  | some (.str text) =>
      if text.startsWith referenceHead then some (lastSegment text) else none
  | _ => none

/-- The definitions that may be followed after one of them has been. -/
def without (name : Text) (available : Members) : Members :=
  available.filter fun definition => definition.1 != name

theorem without_length_lt {name : Text} {available : Members} {value : Json}
    (found : Members.find? name available = some value) :
    (without name available).length < available.length := by
  induction available with
  | nil => cases found
  | cons definition later inductionHypothesis =>
      obtain ⟨key, body⟩ := definition
      by_cases same : key = name
      · have shorter := List.length_filter_le
          (fun definition : Text × Json => definition.1 != name) later
        simp only [without, same, List.filter_cons, bne_self_eq_false,
          Bool.false_eq_true, ↓reduceIte, List.length_cons]
        omega
      · simp only [Members.find?, same, ↓reduceIte] at found
        have tail := inductionHypothesis found
        simp only [without, List.filter_cons, bne_iff_ne, ne_eq, same,
          not_false_eq_true, ↓reduceIte, List.length_cons] at tail ⊢
        omega

/-- Why a reference cannot be followed: its definition is missing or leads back
to itself. -/
def unfollowed (definitions : Members) (name : Text) : Failure :=
  match Members.find? name definitions with
  | some _ => .endlessReference
  | none => .unknownKey (.str name)

mutual

/-- A value whose references are replaced.  Only the available definitions may
be followed. -/
def inlineValue (definitions available : Members) (node : Json) :
    Except Failure Json :=
  match node with
  | .obj members =>
      match referenceName? members with
      | some name =>
          match _found : Members.find? name available with
          | some target =>
              inlineValue definitions (without name available) target
          | none => .error (unfollowed definitions name)
      | none => (inlineMembers definitions available members).map .obj
  | .arr items => (inlineItems definitions available items).map .arr
  | other => .ok other
termination_by (available.length, sizeOf node)
decreasing_by
  · exact Prod.Lex.left _ _ (without_length_lt _found)
  · apply Prod.Lex.right
    simp
  · apply Prod.Lex.right
    simp

def inlineItems (definitions available : Members) (items : List Json) :
    Except Failure (List Json) :=
  match items with
  | [] => .ok []
  | item :: later => do
      let first ← inlineValue definitions available item
      let rest ← inlineItems definitions available later
      return first :: rest
termination_by (available.length, sizeOf items)
decreasing_by
  all_goals
    apply Prod.Lex.right
    simp
    try omega

def inlineMembers (definitions available : Members) (members : Members) :
    Except Failure Members :=
  match members with
  | [] => .ok []
  | (name, value) :: later => do
      let first ← inlineValue definitions available value
      let rest ← inlineMembers definitions available later
      return (name, first) :: rest
termination_by (available.length, sizeOf members)
decreasing_by
  all_goals
    apply Prod.Lex.right
    simp
    try omega

end

def inlineReferences (definitions : Members) (node : Json) : Except Failure Json :=
  inlineValue definitions definitions node

end Folio.JsonSchema
