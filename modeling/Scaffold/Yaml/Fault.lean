import Scaffold.Text.Blank
import Scaffold.Text.Letters
import Scaffold.Text.Quoted
import Scaffold.Value.Calendar
import Scaffold.Yaml.Character

/-!
# Faults of a document

A document can be malformed, or hold a scalar that has the form of a kind of value and denotes no
value of that kind.
-/

set_option autoImplicit false

namespace Scaffold.Yaml

inductive ScalarFault where
  | calendar (fault : CalendarFault)
  | notMoment
  | notInteger (base : Nat) (text : String)
  | notNumber (text : String)
  | notTruth (text : String)
  | noDigits
  | noCharacter (code : Nat)
  deriving DecidableEq, Repr

/-- The greatest code that is told apart as a code of no character. -/
def greatestCode : Nat := 0x7FFFFFFF

/-- The most decimal digits that an integer is read from. -/
def mostDigits : Nat := 4300

/-- The text of a scalar, without blanks around it and with plain digits. -/
def plainText (content : List Char) : List Char :=
  (Text.trim content).map Text.plainDigit

/-- How many decimal digits a text starts with, after its sign. -/
def leadingDigits (content : List Char) : Nat :=
  ((dropSign (plainText content)).takeWhile isDigit).length

/-- Whether a text has more decimal digits in front than an integer is read from. -/
def hasTooManyDigits (base : Nat) (content : List Char) : Bool :=
  base == 10 && mostDigits < leadingDigits content

private def notIntegerMessage (base : Nat) (content : List Char) : String :=
  if hasTooManyDigits base content then
    "Exceeds the limit (" ++ toString mostDigits ++
      " digits) for integer string conversion: value has " ++ toString (leadingDigits content) ++
      " digits; use sys.set_int_max_str_digits() to increase the limit"
  else
    "invalid literal for int() with base " ++ toString base ++ ": " ++
      String.ofList ((Text.quoted content).take 200)

/-- Digits of base sixty are no number if there are too many of them. -/
private def notNumberMessage (text : String) : String :=
  if text.toList.contains ':' then "int too large to convert to float"
  else "could not convert string to float: " ++ Text.quote text

def ScalarFault.message : ScalarFault → String
  | .calendar fault => fault.message
  | .notMoment => "'NoneType' object has no attribute 'groupdict'"
  | .notInteger base text => notIntegerMessage base text.toList
  | .notNumber text => notNumberMessage text
  | .notTruth text => Text.quote text
  | .noDigits => "string index out of range"
  | .noCharacter code =>
    if code ≤ greatestCode then "chr() arg not in range(0x110000)"
    else "Python int too large to convert to C int"

inductive Fault where
  | malformed
  | scalar (fault : ScalarFault)
  deriving DecidableEq, Repr

end Scaffold.Yaml
