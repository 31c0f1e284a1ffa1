import Folio.Binary64.Shortest
import Folio.Json
import Folio.Text.Digits

/-!
# Writing JSON text

The text of a value on one line, in ASCII: every other code point is written as the
escapes of its code units.
-/

namespace Folio.Json

def unitEscape (unit : Nat) : List Char :=
  '\\' :: 'u' :: Text.fixedHex 4 unit

def charText (character : CodePoint) : List Char :=
  let code := character.code
  if character = '"' then ['\\', '"']
  else if character = '\\' then ['\\', '\\']
  else if 0x20 ≤ code ∧ code < 0x7F then [Char.ofNat code]
  else if code < 0x10000 then unitEscape code
  else
    unitEscape (0xD800 + (code - 0x10000) / 0x400) ++
      unitEscape (0xDC00 + (code - 0x10000) % 0x400)

def stringText (text : Text) : String :=
  String.ofList ('"' :: text.toList.flatMap charText ++ ['"'])

mutual

def toText : Json → String
  | .null => "null"
  | .bool value => if value then "true" else "false"
  | .int value => toString value
  | .real value => value.toText
  | .str text => stringText text
  | .arr items => "[" ++ itemsText items ++ "]"
  | .obj members => "\x7b" ++ membersText members ++ "\x7d"

def itemsText : List Json → String
  | [] => ""
  | [item] => toText item
  | item :: later => toText item ++ "," ++ itemsText later

def membersText : List (Text × Json) → String
  | [] => ""
  | [(name, value)] => stringText name ++ ":" ++ toText value
  | (name, value) :: later =>
      stringText name ++ ":" ++ toText value ++ "," ++ membersText later

end

end Folio.Json
