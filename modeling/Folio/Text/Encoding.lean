import Folio.Text
import Folio.Text.Utf8

/-!
# Encodings of received texts

A received text is a sequence of octets in one of five encodings.  Which one it
is shows in the zeros among its first octets: JSON starts with characters of
ASCII, whose other octets are zero where a code unit has two or four of them.
-/

namespace Folio.Text

inductive OctetOrder
  | greatestFirst
  | leastFirst
  deriving DecidableEq

inductive Encoding
  /-- One to four octets for a character, perhaps with a mark in front. -/
  | octets (marked : Bool)
  /-- Code units of two octets, two of which may make up a character. -/
  | pairs (order : OctetOrder)
  | quads (order : OctetOrder)
  deriving DecidableEq

namespace Encoding

def detect (octets : List Nat) : Encoding :=
  match octets with
  | 0xEF :: 0xBB :: 0xBF :: _ => .octets true
  | 0 :: 0 :: _ :: _ :: _ => .quads .greatestFirst
  | 0 :: _ :: _ :: _ :: _ => .pairs .greatestFirst
  | _ :: 0 :: 0 :: 0 :: _ => .quads .leastFirst
  | _ :: 0 :: _ :: _ :: _ => .pairs .leastFirst
  | [0, _] => .pairs .greatestFirst
  | [_, 0] => .pairs .leastFirst
  | _ => .octets false

def number (order : OctetOrder) (octets : List Nat) : Nat :=
  let ordered :=
    match order with
    | .greatestFirst => octets
    | .leastFirst => octets.reverse
  ordered.foldl (fun value octet => 256 * value + octet) 0

/-- The code units of two octets, unless one octet is left over. -/
def pairUnits? (order : OctetOrder) : List Nat → Option (List Nat)
  | [] => some []
  | [_] => none
  | first :: second :: later =>
      (pairUnits? order later).map (number order [first, second] :: ·)

/-- The code units of four octets, unless some octets are left over. -/
def quadUnits? (order : OctetOrder) : List Nat → Option (List Nat)
  | [] => some []
  | first :: second :: third :: fourth :: later =>
      (quadUnits? order later).map
        (number order [first, second, third, fourth] :: ·)
  | _ => none

/-- The code points of code units of two octets.  Half of a surrogate pair that
stands alone is a code point of its own. -/
def pointsOfPairs : List Nat → List CodePoint
  | [] => []
  | [unit] => [.ofNat unit]
  | unit :: next :: later =>
      if 0xD800 ≤ unit ∧ unit < 0xDC00 ∧ 0xDC00 ≤ next ∧ next < 0xE000 then
        .ofNat (0x10000 + (unit - 0xD800) * 0x400 + (next - 0xDC00)) ::
          pointsOfPairs later
      else .ofNat unit :: pointsOfPairs (next :: later)

/-- The code points of code units of four octets, unless one is no code point. -/
def pointsOfQuads? (units : List Nat) : Option (List CodePoint) :=
  if units.all (· < 0x110000) then some (units.map .ofNat) else none

/-- The code points that octets denote in an encoding, if they are complete. -/
def decode? (encoding : Encoding) (octets : List Nat) : Option (List CodePoint) :=
  match encoding with
  | .octets false => some ((decodeOctets none octets).map .ofChar)
  | .octets true => some ((decodeOctets none (octets.drop 3)).map .ofChar)
  | .pairs order => (pairUnits? order octets).map pointsOfPairs
  | .quads order => (quadUnits? order octets).bind pointsOfQuads?

end Encoding

def receive? (octets : List Nat) : Option Text :=
  ((Encoding.detect octets).decode? octets).map .ofList

end Folio.Text
