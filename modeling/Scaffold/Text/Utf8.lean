import Scaffold.Text.Quoted

/-!
# Texts as octets

A file holds the UTF-8 octets of a text. Octets that code no text are reported by the first octets
that no text contains and by what is wrong with them.
-/

set_option autoImplicit false

namespace Scaffold.Text

inductive OctetFault where
  | invalidStart
  | invalidContinuation
  | unexpectedEnd
  deriving DecidableEq, Repr

def OctetFault.message : OctetFault → String
  | .invalidStart => "invalid start byte"
  | .invalidContinuation => "invalid continuation byte"
  | .unexpectedEnd => "unexpected end of data"

/-- The octets from `position` on, `count` of them and the first one given, code no character. -/
structure Undecodable where
  position : Nat
  count : Nat
  first : UInt8
  fault : OctetFault
  deriving DecidableEq, Repr

def Undecodable.message (undecodable : Undecodable) : String :=
  let place :=
    if undecodable.count ≤ 1 then
      "byte 0x" ++ String.ofList (hexDigits 2 undecodable.first.toNat) ++ " in position " ++
        toString undecodable.position
    else
      "bytes in position " ++ toString undecodable.position ++ "-" ++
        toString (undecodable.position + undecodable.count - 1)
  "'utf-8' codec can't decode " ++ place ++ ": " ++ undecodable.fault.message

private def isContinuation (octet : UInt8) : Bool :=
  0x80 ≤ octet.toNat && octet.toNat < 0xC0

/-- The octets that may follow the first octet of a character of three or four octets. -/
private def maySecond (first second : UInt8) : Bool :=
  isContinuation second &&
    (if first.toNat == 0xE0 then 0xA0 ≤ second.toNat
    else if first.toNat == 0xED then second.toNat < 0xA0
    else if first.toNat == 0xF0 then 0x90 ≤ second.toNat
    else if first.toNat == 0xF4 then second.toNat < 0x90
    else true)

/-- How many octets a character takes that starts with `first`, none if no character does. -/
private def octetCount (first : UInt8) : Nat :=
  let code := first.toNat
  if code < 0x80 then 1
  else if code < 0xC2 then 0
  else if code < 0xE0 then 2
  else if code < 0xF0 then 3
  else if code < 0xF5 then 4
  else 0

/-- How many of the octets at the front belong to one character, and whether they are complete. -/
private def leading (first : UInt8) (rest : List UInt8) : Nat × Option OctetFault :=
  match octetCount first, rest with
  | 0, _ => (1, some .invalidStart)
  | 1, _ => (1, none)
  | _, [] => (1, some .unexpectedEnd)
  | needed, second :: others =>
    if !(if needed == 2 then isContinuation second else maySecond first second) then
      (1, some .invalidContinuation)
    else if needed == 2 then (2, none)
    else
      match others with
      | [] => (2, some .unexpectedEnd)
      | third :: others =>
        if !isContinuation third then (2, some .invalidContinuation)
        else if needed == 3 then (3, none)
        else
          match others with
          | [] => (3, some .unexpectedEnd)
          | fourth :: _ =>
            if !isContinuation fourth then (3, some .invalidContinuation) else (4, none)

/-- The first fault of the octets that begin at `position`; `skip` more belong to a character. -/
private def faultFrom : Nat → Nat → List UInt8 → Option Undecodable
  | _, _, [] => none
  | position, skip + 1, _ :: rest => faultFrom (position + 1) skip rest
  | position, 0, first :: rest =>
    match leading first rest with
    | (count, some fault) => some ⟨position, count, first, fault⟩
    | (count, none) => faultFrom (position + 1) (count - 1) rest

def encode (text : String) : ByteArray :=
  text.toUTF8

def decode (octets : ByteArray) : Except Undecodable String :=
  match String.fromUTF8? octets with
  | some text => .ok text
  | none =>
    .error ((faultFrom 0 0 octets.data.toList).getD ⟨0, 1, 0, .invalidStart⟩)

theorem decode_encode (text : String) : decode (encode text) = .ok text := by
  have valid : text.toByteArray.IsValidUTF8 := text.isValidUTF8
  simp [decode, encode, String.toUTF8, String.fromUTF8?, valid, String.fromUTF8]

end Scaffold.Text
