import Scaffold.Value.Basic
import Scaffold.Yaml.Character
import Scaffold.Yaml.Fault

/-!
# Dates and moments as scalars

A date is written with hyphens. A moment has a time after it, behind a `T` or blanks, with an
optional fraction of a second and an optional zone.
-/

set_option autoImplicit false

namespace Scaffold.Yaml

structure TimeParts where
  hour : Nat
  minute : Nat
  second : Nat
  microsecond : Nat
  offset : Option Int

structure MomentParts where
  year : Nat
  month : Nat
  day : Nat
  time : Option TimeParts

/-- Takes the number at the front, of at least `least` and at most `most` digits. -/
private def number? (least most : Nat) (content : List Char) : Option (Nat × List Char) :=
  let digits := (content.take most).takeWhile isDigit
  if digits.length < least then none
  else some (Nat.ofDigitChars 10 digits 0, content.drop digits.length)

private def mark? (mark : Char) : List Char → Option (List Char)
  | [] => none
  | character :: rest => if character = mark then some rest else none

private def microseconds (fraction : List Char) : Nat :=
  let digits := fraction.take 6
  Nat.ofDigitChars 10 (digits ++ List.replicate (6 - digits.length) '0') 0

private def offset? (content : List Char) : Option (Option Int) :=
  match content.dropWhile isPadding with
  | [] => if content.isEmpty then some none else none
  | ['Z'] => some (some 0)
  | sign :: rest => do
    let (hours, rest) ← if sign = '+' || sign = '-' then number? 1 2 rest else none
    let minutes ←
      match rest with
      | [] => some 0
      | ':' :: rest => (number? 2 2 rest).bind fun (minutes, rest) =>
        if rest.isEmpty then some minutes else none
      | _ => none
    let total : Int := hours * 60 + minutes
    return some (if sign = '-' then -total else total)

private def time? (content : List Char) : Option TimeParts := do
  let (hour, rest) ← number? 1 2 content
  let (minute, rest) ← number? 2 2 (← mark? ':' rest)
  let (second, rest) ← number? 2 2 (← mark? ':' rest)
  let (fraction, rest) :=
    match rest with
    | '.' :: rest => (rest.takeWhile isDigit, rest.dropWhile isDigit)
    | _ => ([], rest)
  return ⟨hour, minute, second, microseconds fraction, ← offset? rest⟩

/-- What stands between a date and a time goes. -/
private def timeText? : List Char → Option (List Char)
  | [] => none
  | first :: rest =>
    if first = 'T' || first = 't' then some rest
    else if isPadding first then some (rest.dropWhile isPadding)
    else none

def momentParts? (content : List Char) : Option MomentParts := do
  let (year, rest) ← number? 4 4 content
  let (month, rest) ← number? 1 2 (← mark? '-' rest)
  let (day, rest) ← number? 1 2 (← mark? '-' rest)
  if rest.isEmpty then return ⟨year, month, day, none⟩
  else return ⟨year, month, day, some (← time? (← timeText? rest))⟩

/-- How long a date is that is written with all its digits. -/
private def dateLength : Nat := 10

/-- Whether a plain scalar has the form of a moment, or of a date with all its digits. -/
def isMoment (content : List Char) : Bool :=
  match momentParts? content with
  | some parts => parts.time.isSome || content.length == dateLength
  | none => false

def momentValue (content : List Char) : Except ScalarFault Value :=
  match momentParts? content with
  | none => .error .notMoment
  | some parts =>
    match parts.time with
    | none =>
      ((Date.make? parts.year parts.month parts.day).map Value.date).mapError .calendar
    | some time =>
      ((Moment.make? parts.year parts.month parts.day time.hour time.minute time.second
        time.microsecond time.offset).map Value.moment).mapError .calendar

end Scaffold.Yaml
