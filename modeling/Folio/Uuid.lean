import Folio.Issue
import Folio.Json.Lenient
import Folio.Text.Digits

/-!
# Identifiers of entities

Identifiers of 128 bits.  They are read in four forms and written in one: 32
lowercase hexadecimal digits in hyphenated groups.
-/

namespace Folio

structure Uuid where
  bits : BitVec 128
  deriving DecidableEq

namespace Uuid

def groupLengths : List Nat := [8, 4, 4, 4, 12]

def ofDigits? (digits : List Char) : Option Uuid :=
  if digits.length = 32 then
    (Text.hexNat? digits).map fun value => { bits := BitVec.ofNat 128 value }
  else none

def joinGroups? : List Nat → List Char → Option (List Char)
  | [], _ => none
  | [length], characters =>
      if characters.length = length then some characters else none
  | length :: later, characters =>
      match characters.drop length with
      | '-' :: rest =>
          (joinGroups? later rest).map fun digits =>
            characters.take length ++ digits
      | _ => none

def ofHyphenated? (characters : List Char) : Option Uuid :=
  (joinGroups? groupLengths characters).bind ofDigits?

/-- The text before a hyphenated identifier that is written as a name. -/
def nameHead : List Char := "urn:uuid:".toList

/-- The identifier that a text denotes: 32 digits, hyphenated groups, those in
braces, or those after `urn:uuid:`. -/
def ofChars? (characters : List Char) : Option Uuid :=
  (ofDigits? characters).or <|
    (ofHyphenated? characters).or <|
      match characters with
      | '\x7b' :: later =>
          if later.getLast? = some '\x7d' then ofHyphenated? later.dropLast
          else none
      | _ =>
          if nameHead.isPrefixOf characters then
            ofHyphenated? (characters.drop nameHead.length)
          else none

def hyphenate : List Nat → List Char → List Char
  | [], _ => []
  | [length], digits => digits.take length
  | length :: later, digits =>
      digits.take length ++ '-' :: hyphenate later (digits.drop length)

def toText (identifier : Uuid) : String :=
  String.ofList
    (hyphenate groupLengths (Text.fixedHex 32 identifier.bits.toNat))

def ofText (text : String) : Except Complaint Uuid :=
  match ofChars? text.toList with
  | some identifier => .ok identifier
  | none => .error .unreadableUuid

def ofJson : Json → Except Complaint Uuid
  | .str text => Json.readCharacters ofText text
  | _ => .error .notUuid

end Uuid

end Folio
