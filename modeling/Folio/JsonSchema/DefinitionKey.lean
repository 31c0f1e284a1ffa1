import Folio.Text
import Folio.Text.Split

/-!
# Keys of definitions

The key under which the definition of a named type is kept.  A name is taken as
a path: in each of its parts between brackets and commas only what follows the
last point counts, and nothing from the last colon on.  Characters that a key
cannot hold become underscores.
-/

namespace Folio.JsonSchema

def isPartMark (character : CodePoint) : Bool :=
  character == '[' || character == ']' || character == ','

/-- The parts of a name, each mark between them as a part of its own. -/
def nameParts : List CodePoint → List (List CodePoint)
  | [] => [[]]
  | character :: later =>
      if isPartMark character then [] :: [character] :: nameParts later
      else
        match nameParts later with
        | [] => [[character]]
        | part :: parts => (character :: part) :: parts

/-- The part without what follows its last colon, and without that colon. -/
def beforeLastColon (part : List CodePoint) : List CodePoint :=
  if part.contains ':' then
    ((part.reverse.dropWhile (· != CodePoint.ofChar ':')).drop 1).reverse
  else part

/-- The segments of a path, of which those are dropped that lead to the next
one.  An empty segment leads nowhere. -/
def lastSegments : List (List CodePoint) → List (List CodePoint)
  | segment :: next :: later =>
      if segment ≠ [] ∧ next ≠ [] then lastSegments (next :: later)
      else segment :: lastSegments (next :: later)
  | segments => segments

def withoutPath (part : List CodePoint) : List CodePoint :=
  Text.joinWith '.' (lastSegments (Text.splitOn '.' part))

/-- A character of a name in a key.  A point becomes two underscores. -/
def keyChars (character : CodePoint) : List CodePoint :=
  if character.isAlphanumeric || character == '-' || character == '_' then
    [character]
  else if character == '.' then ['_', '_']
  else ['_']

/-- The key of a type with a name.  `home` is the last segment of the path that
leads to the types of its sort. -/
def definitionKey (home name : Text) : Text :=
  let path := (home ++ "." ++ name ++ ":").toList
  .ofList
    ((nameParts path).flatMap fun part =>
      (withoutPath (beforeLastColon part)).flatMap keyChars)

end Folio.JsonSchema
