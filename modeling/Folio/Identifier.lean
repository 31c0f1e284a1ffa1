import Folio.Text.Case

/-!
# Identifiers of fields

A schema names its fields in lower case with underscores (`published_at`).  The
identifier of a field is its capitalized name (`PublishedAt`), and the wire form
of an identifier starts in lower case (`publishedAt`).
-/

namespace Folio.Identifier

def separator : CodePoint := '_'

/-- Words run together, each with a capital first letter.  `atStart` says that
the next letter starts a word. -/
def capitalizeFrom (atStart : Bool) : List CodePoint → List CodePoint
  | [] => []
  | character :: later =>
      if character = separator then capitalizeFrom true later
      else
        (if atStart then Text.upperChar character else [character]) ++
          capitalizeFrom false later

/-- The identifier of a field name.  Separators disappear; a name made only of
separators has an empty identifier. -/
def capitalize (name : Text) : Text :=
  .ofList (capitalizeFrom true name.toList)

def camelizeChars : List CodePoint → List CodePoint
  | [] => []
  | character :: later => Text.lowerChar character ++ later

def camelize (identifier : Text) : Text :=
  .ofList (camelizeChars identifier.toList)

/-- The identifier of the creation time, by which every entity can be ordered. -/
def createdAt : Text := "CreatedAt"

def createdAtField : Text := "created_at"

def spellsCreatedAt (identifier : Text) : Bool :=
  Text.lower identifier == Text.lower createdAt

@[simp]
theorem capitalizeFrom_separator (atStart : Bool) (later : List CodePoint) :
    capitalizeFrom atStart (separator :: later) = capitalizeFrom true later := by
  simp [capitalizeFrom]

theorem spellsCreatedAt_createdAt : spellsCreatedAt createdAt = true := by
  simp [spellsCreatedAt]

theorem ne_createdAt_of_not_spells {identifier : Text}
    (otherwise : spellsCreatedAt identifier = false) :
    identifier ≠ createdAt := by
  intro same
  rw [same, spellsCreatedAt_createdAt] at otherwise
  cases otherwise

end Folio.Identifier
