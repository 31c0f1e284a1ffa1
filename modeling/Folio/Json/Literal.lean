import Folio.Binary64.Shortest
import Folio.Json
import Folio.Text.Digits
import Folio.Text.Printable

/-!
# Values inside messages

How a message names a raw value.  A string is put in unchanged; inside a list or
an object it is quoted, with single quotes unless it contains those and no
double ones.
-/

namespace Folio.Json

def numericEscape (mark : Char) (width code : Nat) : List CodePoint :=
  ('\\' :: mark :: Text.fixedHex width code).map .ofChar

def quotedChar (quote character : CodePoint) : List CodePoint :=
  let code := character.code
  if character = quote ∨ character = '\\' then ['\\', character]
  else if character = '\n' then ['\\', 'n']
  else if character = '\r' then ['\\', 'r']
  else if character = '\t' then ['\\', 't']
  else if Text.isPrintable character then [character]
  else if code < 0x100 then numericEscape 'x' 2 code
  else if code < 0x10000 then numericEscape 'u' 4 code
  else numericEscape 'U' 8 code

def quoted (text : Text) : Text :=
  let characters := text.toList
  let quote : CodePoint :=
    if characters.contains '\'' && !characters.contains '"' then '"' else '\''
  .ofList
    (quote :: characters.flatMap (quotedChar quote) ++ [quote])

mutual

def literal : Json → Text
  | .null => "None"
  | .bool value => if value then "True" else "False"
  | .int value => (toString value : String)
  | .real value => value.toText
  | .str text => quoted text
  | .arr items => "[" ++ literalItems items ++ "]"
  | .obj members => "\x7b" ++ literalMembers members ++ "\x7d"

def literalItems : List Json → Text
  | [] => ""
  | [item] => literal item
  | item :: later => literal item ++ ", " ++ literalItems later

def literalMembers : List (Text × Json) → Text
  | [] => ""
  | [(name, value)] => quoted name ++ ": " ++ literal value
  | (name, value) :: later =>
      quoted name ++ ": " ++ literal value ++ ", " ++ literalMembers later

end

def shown : Json → Text
  | .str text => text
  | value => literal value

end Folio.Json
