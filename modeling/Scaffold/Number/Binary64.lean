/-!
# Binary floating point numbers

The 64-bit numbers as exact values: a significand below 2^53 times a power of two not below
2^-1074, an infinity, or no number. Operations compute exactly and round to the nearest such
number, a tie to the even significand.
-/

set_option autoImplicit false

namespace Scaffold

/-- A number is `significand * 2 ^ exponent` with its sign. A significand below 2^52 comes with the
least exponent. -/
inductive Binary64 where
  | undefined
  | infinite (negative : Bool)
  | finite (negative : Bool) (significand : Nat) (exponent : Int)
  deriving DecidableEq, Repr

namespace Binary64

def leastExponent : Int := -1074

def greatestExponent : Int := 971

/-- Significands are below this. -/
def significandLimit : Nat := Nat.pow 2 53

def zero (negative : Bool) : Binary64 :=
  .finite negative 0 leastExponent

/-- The quotient rounded to a natural number, a tie to the even one. -/
def roundQuotient (numerator denominator : Nat) : Nat :=
  let quotient := numerator / denominator
  let rest := numerator % denominator
  if 2 * rest < denominator then quotient
  else if denominator < 2 * rest then quotient + 1
  else quotient + quotient % 2

/-- The significand of `numerator / denominator` at a given exponent. -/
def significandAt (numerator denominator : Nat) (exponent : Int) : Nat :=
  if 0 ≤ exponent then roundQuotient numerator (denominator * Nat.pow 2 exponent.toNat)
  else roundQuotient (numerator * Nat.pow 2 (-exponent).toNat) denominator

/-- The floor of the base two logarithm of a positive quotient, or that number less one. -/
def logEstimate (numerator denominator : Nat) : Int :=
  (numerator.log2 : Int) - (denominator.log2 : Int) - 1

/-- The nearest number to `numerator / denominator`. -/
def ofQuotient (negative : Bool) (numerator denominator : Nat) : Binary64 :=
  if numerator = 0 then zero negative
  else
    let estimate := logEstimate numerator denominator
    let exponent := max (estimate - 52) leastExponent
    let significand := significandAt numerator denominator exponent
    let (significand, exponent) :=
      if significand < significandLimit then (significand, exponent)
      else
        let again := significandAt numerator denominator (exponent + 1)
        if again < significandLimit then (again, exponent + 1) else (again / 2, exponent + 2)
    if greatestExponent < exponent then .infinite negative
    else .finite negative significand exponent

/-- The nearest number to `coefficient * 10 ^ power`. -/
def ofDecimal (negative : Bool) (coefficient : Nat) (power : Int) : Binary64 :=
  if coefficient = 0 then zero negative
  else
    let magnitude := power + (coefficient.log2 / 3 : Nat) + 1
    if 400 < power then .infinite negative
    else if magnitude < -400 then zero negative
    else if 0 ≤ power then ofQuotient negative (coefficient * Nat.pow 10 power.toNat) 1
    else ofQuotient negative coefficient (Nat.pow 10 (-power).toNat)

def isZero : Binary64 → Bool
  | .finite _ significand _ => significand == 0
  | _ => false

def negate : Binary64 → Binary64
  | .undefined => .undefined
  | .infinite negative => .infinite !negative
  | .finite negative significand exponent => .finite (!negative) significand exponent

/-- The exact value as a multiple of `2 ^ leastExponent`. -/
def scaled (negative : Bool) (significand : Nat) (exponent : Int) : Int :=
  let size : Int := (significand * Nat.pow 2 (exponent - leastExponent).toNat : Nat)
  if negative then -size else size

def ofScaled (sign : Bool) (value : Int) : Binary64 :=
  if value = 0 then zero sign
  else ofQuotient (value < 0) value.natAbs (Nat.pow 2 (-leastExponent).toNat)

def add : Binary64 → Binary64 → Binary64
  | .undefined, _ => .undefined
  | _, .undefined => .undefined
  | .infinite left, .infinite right => if left = right then .infinite left else .undefined
  | .infinite left, _ => .infinite left
  | _, .infinite right => .infinite right
  | .finite left leftSignificand leftExponent, .finite right rightSignificand rightExponent =>
    ofScaled (left && right)
      (scaled left leftSignificand leftExponent + scaled right rightSignificand rightExponent)

def ofNat (value : Nat) : Binary64 :=
  ofQuotient false value 1

def multiply : Binary64 → Binary64 → Binary64
  | .undefined, _ => .undefined
  | _, .undefined => .undefined
  | .infinite left, .finite right significand _ =>
    if significand = 0 then .undefined else .infinite (left != right)
  | .finite left significand _, .infinite right =>
    if significand = 0 then .undefined else .infinite (left != right)
  | .infinite left, .infinite right => .infinite (left != right)
  | .finite left leftSignificand leftExponent, .finite right rightSignificand rightExponent =>
    let exponent := leftExponent + rightExponent
    let product := leftSignificand * rightSignificand
    if 0 ≤ exponent then ofQuotient (left != right) (product * Nat.pow 2 exponent.toNat) 1
    else ofQuotient (left != right) product (Nat.pow 2 (-exponent).toNat)

/-- The integer that a number is equal to, if there is one. -/
def toInt? : Binary64 → Option Int
  | .finite negative significand exponent =>
    let divisor := Nat.pow 2 (-exponent).toNat
    if significand % divisor = 0 then
      let size : Int := (significand / divisor * Nat.pow 2 exponent.toNat : Nat)
      some (if negative then -size else size)
    else none
  | _ => none

end Binary64

end Scaffold
