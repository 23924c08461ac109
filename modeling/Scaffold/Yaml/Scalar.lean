import Scaffold.Number.Binary64
import Scaffold.Text.Blank
import Scaffold.Text.LetterCase
import Scaffold.Yaml.Character
import Scaffold.Yaml.Fault
import Scaffold.Yaml.Moment
import Scaffold.Yaml.Octets
import Scaffold.Yaml.Tag
import Scaffold.Value.Basic

/-!
# Scalars

Which kind of value a plain scalar has the form of, and the value that a scalar of a kind denotes.
Integers are decimal, octal after a zero, binary, hexadecimal, or digits of base sixty between
colons; numbers with a point are decimal or of base sixty. Underscores between digits say nothing.
-/

set_option autoImplicit false

namespace Scaffold.Yaml

def truthWords : List (String × Bool) :=
  [("yes", true), ("no", false), ("true", true), ("false", false), ("on", true), ("off", false)]

def nullWords : List String :=
  ["~", "null", "Null", "NULL", ""]

/-- A word in small letters, capitalised, or in capitals. -/
def spellings (word : List Char) : List (List Char) :=
  [word, Text.capitalize word, word.map Char.toUpper]

private def isTruth (content : List Char) : Bool :=
  truthWords.any fun word => (spellings word.1.toList).contains content

private def isNull (content : List Char) : Bool :=
  nullWords.any (·.toList == content)

private def isDecimal (character : Char) : Bool :=
  isDigit character || character == '_'

private def isHex (character : Char) : Bool :=
  isDecimal character || ('a' ≤ character && character ≤ 'f') ||
    ('A' ≤ character && character ≤ 'F')

/-- A digit of base sixty in one or two decimal digits. -/
private def isSixtieth : List Char → Bool
  | [digit] => isDigit digit
  | [tens, digit] => '0' ≤ tens && tens ≤ '5' && isDigit digit
  | _ => false

private def allOf (accepts : Char → Bool) (content : List Char) : Bool :=
  !content.isEmpty && content.all accepts

/-- Decimal digits, of which the first is no underscore. -/
private def startsDecimal (content : List Char) : Bool :=
  content.all isDecimal && isDigit (content.headD '_')

private def isInteger (content : List Char) : Bool :=
  match dropSign content with
  | ['0'] => true
  | '0' :: 'b' :: digits => allOf (fun digit => digit == '0' || digit == '1' || digit == '_') digits
  | '0' :: 'x' :: digits => allOf isHex digits
  | '0' :: digits =>
    allOf (fun digit => ('0' ≤ digit && digit ≤ '7') || digit == '_') digits
  | digits =>
    match digits.splitOn ':' with
    | first :: others => startsDecimal first && others.all isSixtieth
    | [] => false

private def isExponent : List Char → Bool
  | [] => true
  | mark :: sign :: digits =>
    (mark == 'e' || mark == 'E') && (sign == '+' || sign == '-') && allOf isDigit digits
  | _ => false

/-- Decimal digits and an exponent, after a point. -/
private def isFraction (content : List Char) : Bool :=
  isExponent (content.dropWhile isDecimal)

private def isNumber (content : List Char) : Bool :=
  let size := dropSign content
  let whole := size.takeWhile (· ≠ '.')
  match size.dropWhile (· ≠ '.') with
  | '.' :: rest =>
    if whole.isEmpty then
      (spellings "inf".toList).contains rest ||
        (size == content &&
          (["nan", "NaN", "NAN"].any (·.toList == rest) ||
            (isDigit (rest.headD '_') && isFraction rest)))
    else
      match whole.splitOn ':' with
      | first :: others =>
        startsDecimal first && others.all isSixtieth &&
          (if others.isEmpty then isFraction rest else rest.all isDecimal)
      | [] => false
  | _ => false

/-- The kind of value that a plain scalar has the form of. -/
def Tag.ofPlain (content : List Char) : Tag :=
  if isNull content then .null
  else if isTruth content then .truth
  else if isNumber content then .number
  else if isInteger content then .integer
  else if content = ['<', '<'] then .merge
  else if content = ['='] then .defaultEntry
  else if isMoment content then .moment
  else .text

private def digitValue? (base : Nat) (character : Char) : Option Nat :=
  let code := character.toNat
  let value? :=
    if isDigit character then some (code - 48)
    else if 'a' ≤ character && character ≤ 'f' then some (code - 87)
    else if 'A' ≤ character && character ≤ 'F' then some (code - 55)
    else none
  value?.filter (· < base)

private def digitsValue? (base : Nat) (digits : List Char) : Option Nat :=
  if digits.isEmpty then none
  else
    digits.foldl (fun total digit => do return base * (← total) + (← digitValue? base digit))
      (some 0)

private def isNegative (content : List Char) : Bool :=
  content.head? == some '-'

private def signed (negative : Bool) (amount : Int) : Int :=
  if negative then -amount else amount

/-- The letters that may stand for a base after a zero. -/
private def baseLetters : List (Nat × List Char) :=
  [(2, ['b', 'B']), (8, ['o', 'O']), (16, ['x', 'X'])]

private def dropBase (base : Nat) : List Char → List Char
  | '0' :: letter :: digits =>
    if ((baseLetters.lookup base).getD []).contains letter then digits
    else '0' :: letter :: digits
  | digits => digits

private def integerOf (base : Nat) (content : List Char) : Except ScalarFault Int :=
  let plain := plainText content
  if hasTooManyDigits base content then .error (.notInteger base (String.ofList content))
  else
    match digitsValue? base (dropBase base (dropSign plain)) with
    | some amount => .ok (signed (isNegative plain) amount)
    | none => .error (.notInteger base (String.ofList content))

/-- The value of digits of base sixty. -/
private def sixtiethsOf (parts : List (List Char)) : Except ScalarFault Int :=
  parts.foldlM (fun total part => do return 60 * total + (← integerOf 10 part)) 0

private def dropUnderscores (content : List Char) : List Char :=
  content.filter (· ≠ '_')

def integerValue (content : List Char) : Except ScalarFault Int := do
  let content := dropUnderscores content
  let size := dropSign content
  if content.isEmpty || size.isEmpty then .error .noDigits
  else
    let amount ← match size with
      | ['0'] => .ok 0
      | '0' :: 'b' :: digits => integerOf 2 digits
      | '0' :: 'x' :: digits => integerOf 16 digits
      | '0' :: digits => integerOf 8 ('0' :: digits)
      | digits =>
        if digits.contains ':' then sixtiethsOf (digits.splitOn ':') else integerOf 10 digits
    return signed (isNegative content) amount

private def exponentOf? : List Char → Option Int
  | [] => some 0
  | mark :: rest =>
    if mark = 'e' then
      (digitsValue? 10 (dropSign rest)).map fun amount => signed (isNegative rest) amount
    else none

private def decimalOf? (negative : Bool) (content : List Char) : Option Binary64 := do
  let whole := content.takeWhile isDigit
  let rest := content.dropWhile isDigit
  let (fraction, rest) :=
    match rest with
    | '.' :: rest => (rest.takeWhile isDigit, rest.dropWhile isDigit)
    | _ => ([], rest)
  let coefficient ← digitsValue? 10 (whole ++ fraction)
  let exponent ← exponentOf? rest
  return Binary64.ofDecimal negative coefficient (exponent - fraction.length)

private def numberOf (content : List Char) : Except ScalarFault Binary64 :=
  let plain := plainText content
  let negative := isNegative plain
  let size := dropSign plain
  if size = "inf".toList || size = "infinity".toList then .ok (.infinite negative)
  else if size = "nan".toList then .ok .undefined
  else
    match decimalOf? negative size with
    | some amount => .ok amount
    | none => .error (.notNumber (String.ofList content))

/-- Adds parts of base sixty from the last on, each times its power of the base. -/
private def sixtiethNumbers : Nat → Binary64 → List Binary64 → Binary64
  | _, total, [] => total
  | base, total, part :: parts =>
    sixtiethNumbers (60 * base) (total.add (part.multiply (Binary64.ofNat base))) parts

def numberValue (content : List Char) : Except ScalarFault Binary64 := do
  let content := Text.lower (dropUnderscores content)
  let size := dropSign content
  if content.isEmpty then .error .noDigits
  else
    let amount ←
      if size = ".inf".toList then .ok (Binary64.infinite false)
      else if size = ".nan".toList then .ok Binary64.undefined
      else if size.contains ':' then do
        let parts ← (size.splitOn ':').mapM numberOf
        -- The greatest power of sixty must be a number for its part to count.
        if Binary64.ofNat (Nat.pow 60 (parts.length - 1)) = .infinite false then
          .error (.notNumber (String.ofList size))
        else return sixtiethNumbers 1 (Binary64.zero false) parts.reverse
      else numberOf size
    return if isNegative content then amount.negate else amount

def truthValue (content : List Char) : Except ScalarFault Bool :=
  let word := String.ofList (Text.lower content)
  match truthWords.lookup word with
  | some holds => .ok holds
  | none => .error (.notTruth word)

/-- The value of a scalar of a kind. -/
def scalarValue (tag : Tag) (content : List Char) : Except Fault Value :=
  match tag with
  | .null => .ok .null
  | .truth => ((truthValue content).map Value.truth).mapError .scalar
  | .integer => ((integerValue content).map Value.integer).mapError .scalar
  | .number => ((numberValue content).map Value.number).mapError .scalar
  | .text => .ok (.text (String.ofList content))
  | .octets =>
    match octetsValue? content with
    | some octets => .ok (.octets octets)
    | none => .error .malformed
  | .moment => (momentValue content).mapError .scalar
  | .list | .mapping | .members | .merge | .defaultEntry | .unknown => .error .malformed

end Scaffold.Yaml
