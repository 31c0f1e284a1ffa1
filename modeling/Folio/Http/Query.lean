import Folio.Json
import Folio.Text.Digits
import Folio.Text.Split
import Folio.Text.Utf8

/-!
# Query strings

The parameters in the query string of a request.  Parts are divided by `&`, a
name and its value by the first `=`.  A plus sign stands for a space, and
octets may be written as a percent sign with two hexadecimal digits.
-/

namespace Folio.Http

def escapedOctet? (first second : Char) : Option Nat := do
  let high ← Text.hexValue? first
  let low ← Text.hexValue? second
  return 16 * high + low

/-- The first octet of an ASCII text and what is left of it.  A percent sign
without two digits stands for itself. -/
def nextOctet (character : Char) (later : List Char) : Nat × Nat :=
  match character, later with
  | '%', first :: second :: _ =>
      match escapedOctet? first second with
      | some octet => (octet, 2)
      | none => (character.toNat, 0)
  | _, _ => (character.toNat, 0)

/-- The text with its escapes resolved.  `octets` are those of the ASCII
characters since the last other one, in reverse, and `skipped` counts the
characters of an escape that are still to be passed over. -/
def unescapeFrom (octets : List Nat) (skipped : Nat) : List Char → List Char
  | [] => Text.decodeOctets none octets.reverse
  | character :: later =>
      match skipped with
      | rest + 1 => unescapeFrom octets rest later
      | 0 =>
          if character.toNat < 0x80 then
            let (octet, following) := nextOctet character later
            unescapeFrom (octet :: octets) following later
          else
            Text.decodeOctets none octets.reverse ++
              character :: unescapeFrom [] 0 later

def unescape (characters : List Char) : List Char :=
  unescapeFrom [] 0 characters

/-- A character as it arrives in a query string: each octet beyond ASCII is a
character of its own. -/
def transmitted (character : Char) : List Char :=
  (Text.octetsOf character).map Char.ofNat

def queryText (characters : List Char) : String :=
  String.ofList (unescape (characters.map fun character =>
    if character = '+' then ' ' else character))

/-- The parameter of one part: without an equals sign its value is empty. -/
def queryPart (characters : List Char) : Text × Json :=
  (queryText (characters.takeWhile (· != '=')),
    .str (queryText ((characters.dropWhile (· != '=')).drop 1)))

/-- The parameters of a query string; of a repeated name the last value
counts. -/
def readQuery (query : String) : Members :=
  let parts := Text.splitOn '&' (query.toList.flatMap transmitted)
  Members.ofList ((parts.filter (!·.isEmpty)).map queryPart)

end Folio.Http
