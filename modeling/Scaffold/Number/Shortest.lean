import Scaffold.Number.Binary64

/-!
# Shortest decimal text of a number

A finite number is written with the fewest digits that read back as it, and of those the nearest.
Digits stand around a point while the first of them is between the fourth place after the point and
the sixteenth before it, and with an exponent of two digits or more beyond.
-/

set_option autoImplicit false

namespace Scaffold.Binary64

/-- Decimal digits and the place of the point, counted from before the first digit. -/
structure Decimal where
  digits : List Char
  point : Int
  deriving DecidableEq, Repr

/-- Whether `coefficient * 10 ^ power` reads back as the number. -/
private def readsBack (significand : Nat) (exponent : Int) (coefficient : Nat) (power : Int) :
    Bool :=
  ofDecimal false coefficient power == .finite false significand exponent

/-- The quotient `value / 10 ^ power` of an exact value, as a numerator and a denominator. -/
private def onGrid (significand : Nat) (exponent power : Int) : Nat × Nat :=
  let numerator := significand * Nat.pow 2 exponent.toNat * Nat.pow 10 (-power).toNat
  let denominator := Nat.pow 2 (-exponent).toNat * Nat.pow 10 power.toNat
  (numerator, denominator)

/-- The coefficient nearest to the number among the multiples of `10 ^ power` that read back. -/
private def candidate (significand : Nat) (exponent power : Int) : Option Nat :=
  let (numerator, denominator) := onGrid significand exponent power
  let below := numerator / denominator
  let nearer := roundQuotient numerator denominator
  let farther := if nearer = below then below + 1 else below
  if readsBack significand exponent nearer power then some nearer
  else if readsBack significand exponent farther power then some farther
  else none

/-- Tries grids from the coarsest on; `count` of them are left. -/
private def search (significand : Nat) (exponent : Int) : Nat → Int → Nat × Int
  | 0, power => (0, power)
  | count + 1, power =>
    match candidate significand exponent power with
    | some coefficient => (coefficient, power)
    | none => search significand exponent count (power - 1)

/-- The power of ten of the first digit of a positive number. -/
private def firstPower (significand : Nat) (exponent : Int) : Int :=
  let (numerator, denominator) := onGrid significand exponent 0
  if denominator ≤ numerator then ((toString (numerator / denominator)).length : Int) - 1
  else -((toString ((denominator - 1) / numerator)).length : Int)

private def dropTrailingZeros (digits : List Char) : List Char :=
  (digits.reverse.dropWhile (· == '0')).reverse

def shortest (significand : Nat) (exponent : Int) : Decimal :=
  if significand = 0 then ⟨['0'], 1⟩
  else
    let (coefficient, power) :=
      search significand exponent 20 (firstPower significand exponent + 1)
    let digits := (toString coefficient).toList
    ⟨dropTrailingZeros digits, digits.length + power⟩

private def zeros (count : Nat) : List Char :=
  List.replicate count '0'

private def exponentText (exponent : Int) : List Char :=
  let digits := (toString exponent.natAbs).toList
  'e' :: (if exponent < 0 then '-' else '+') :: zeros (2 - digits.length) ++ digits

def Decimal.write (decimal : Decimal) : List Char :=
  let digits := decimal.digits
  let point := decimal.point
  if -4 < point && point ≤ 0 then '0' :: '.' :: zeros (-point).toNat ++ digits
  else if 0 < point && point ≤ 16 then
    let whole := point.toNat
    if digits.length ≤ whole then digits ++ zeros (whole - digits.length) ++ ['.', '0']
    else digits.take whole ++ '.' :: digits.drop whole
  else
    match digits with
    | [] => []
    | [digit] => digit :: exponentText (point - 1)
    | first :: rest => first :: '.' :: rest ++ exponentText (point - 1)

def toText : Binary64 → String
  | .undefined => "nan"
  | .infinite negative => if negative then "-inf" else "inf"
  | .finite negative significand exponent =>
    let text := String.ofList (shortest significand exponent).write
    if negative then "-" ++ text else text

end Scaffold.Binary64
