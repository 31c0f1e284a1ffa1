/-!
# Octets of texts

The encoding of texts as octets, and a decoding that never fails: octets that
are no part of a character give one replacement character for each longest
beginning of a character.
-/

namespace Folio.Text

def octetsOf (character : Char) : List Nat :=
  let code := character.toNat
  if code < 0x80 then [code]
  else if code < 0x800 then [0xC0 + code / 0x40, 0x80 + code % 0x40]
  else if code < 0x10000 then
    [0xE0 + code / 0x1000, 0x80 + code / 0x40 % 0x40, 0x80 + code % 0x40]
  else
    [0xF0 + code / 0x40000, 0x80 + code / 0x1000 % 0x40,
      0x80 + code / 0x40 % 0x40, 0x80 + code % 0x40]

/-- A character of which some octets are still to come.  The next one has to lie
between the bounds. -/
structure Unfinished where
  missing : Nat
  code : Nat
  lowest : Nat
  highest : Nat
  deriving DecidableEq

def startOf? (octet : Nat) : Option Unfinished :=
  if octet < 0xC2 then none
  else if octet < 0xE0 then
    some { missing := 1, code := octet - 0xC0, lowest := 0x80, highest := 0xBF }
  else if octet < 0xF0 then
    some {
      missing := 2
      code := octet - 0xE0
      lowest := if octet = 0xE0 then 0xA0 else 0x80
      highest := if octet = 0xED then 0x9F else 0xBF }
  else if octet < 0xF5 then
    some {
      missing := 3
      code := octet - 0xF0
      lowest := if octet = 0xF0 then 0x90 else 0x80
      highest := if octet = 0xF4 then 0x8F else 0xBF }
  else none

def replacement : Char := '\uFFFD'

mutual

/-- The characters of octets, given what is still to come of the current one. -/
def decodeOctets (current? : Option Unfinished) : List Nat → List Char
  | [] =>
      match current? with
      | none => []
      | some _ => [replacement]
  | octet :: later =>
      match current? with
      | none => decodeStart octet later
      | some current =>
          if current.lowest ≤ octet ∧ octet ≤ current.highest then
            let code := current.code * 0x40 + (octet - 0x80)
            if current.missing ≤ 1 then
              Char.ofNat code :: decodeOctets none later
            else
              decodeOctets
                (some { missing := current.missing - 1, code, lowest := 0x80,
                        highest := 0xBF })
                later
          else replacement :: decodeStart octet later

def decodeStart (octet : Nat) (later : List Nat) : List Char :=
  if octet < 0x80 then Char.ofNat octet :: decodeOctets none later
  else
    match startOf? octet with
    | some started => decodeOctets (some started) later
    | none => replacement :: decodeOctets none later

end

end Folio.Text
