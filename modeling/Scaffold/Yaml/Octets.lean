/-!
# Octets written in base sixty-four

Four characters of the alphabet code three octets. Other characters are passed over, and padding
ends a group of which two or three characters are there.
-/

set_option autoImplicit false

namespace Scaffold.Yaml

private def sextet? (character : Char) : Option Nat :=
  let code := character.toNat
  if 'A' ≤ character && character ≤ 'Z' then some (code - 65)
  else if 'a' ≤ character && character ≤ 'z' then some (code - 71)
  else if '0' ≤ character && character ≤ '9' then some (code + 4)
  else if character = '+' then some 62
  else if character = '/' then some 63
  else none

/-- The octets that a group of one to four sextets completes. -/
private def octetsOf : List Nat → List UInt8
  | [first, second] => [(first * 4 + second / 16).toUInt8]
  | [first, second, third] =>
    [(first * 4 + second / 16).toUInt8, (second % 16 * 16 + third / 4).toUInt8]
  | [first, second, third, fourth] =>
    [(first * 4 + second / 16).toUInt8, (second % 16 * 16 + third / 4).toUInt8,
      (third % 4 * 64 + fourth).toUInt8]
  | _ => []

/-- Reads on after the sextets of a group and `padding` marks since the last of them. -/
private def groupsFrom? : List Nat → Nat → List Char → Option (List UInt8)
  | group, _, [] => if group.isEmpty then some [] else none
  | group, padding, character :: rest =>
    if character = '=' then
      if 2 ≤ group.length && 4 ≤ group.length + padding + 1 then some (octetsOf group)
      else groupsFrom? group (if 2 ≤ group.length then padding + 1 else padding) rest
    else
      match sextet? character with
      | none => groupsFrom? group padding rest
      | some sextet =>
        let group := group ++ [sextet]
        if group.length = 4 then (groupsFrom? [] 0 rest).map (octetsOf group ++ ·)
        else groupsFrom? group 0 rest

/-- The octets that a text of ASCII characters codes. -/
def octetsValue? (content : List Char) : Option (List UInt8) :=
  if content.all (·.toNat < 128) then groupsFrom? [] 0 content else none

end Scaffold.Yaml
