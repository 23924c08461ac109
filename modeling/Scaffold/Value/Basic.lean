import Scaffold.Number.Binary64
import Scaffold.Value.Calendar

/-!
# Values

What a configuration file, a command line or a caller can give as the value of an option. Mappings
keep the order of their entries, and a key occurs once.
-/

set_option autoImplicit false

namespace Scaffold

inductive Value where
  | null
  | truth (holds : Bool)
  | integer (number : Int)
  | number (number : Binary64)
  | text (text : String)
  | date (date : Date)
  | moment (moment : Moment)
  | octets (octets : List UInt8)
  | list (items : List Value)
  | mapping (entries : List (Value × Value))
  | members (members : List Value)
  deriving Repr, Inhabited

namespace Value

/-- Empty values, zeros, false and null count as false. -/
def holds : Value → Bool
  | .null => false
  | .truth holds => holds
  | .integer amount => amount != 0
  | .number amount => !amount.isZero
  | .text content => !content.isEmpty
  | .date _ => true
  | .moment _ => true
  | .octets content => !content.isEmpty
  | .list items => !items.isEmpty
  | .mapping entries => !entries.isEmpty
  | .members contained => !contained.isEmpty

def isNull : Value → Bool
  | .null => true
  | _ => false

/-- The whole number that a value is equal to as a key. -/
def wholeNumber? : Value → Option Int
  | .truth holds => some (if holds then 1 else 0)
  | .integer amount => some amount
  | .number amount => amount.toInt?
  | _ => none

/-- Whether two scalar values are the same key of a mapping. Numbers are compared by value, and
true and false count as one and zero. -/
def sameKey (left right : Value) : Bool :=
  match left.wholeNumber?, right.wholeNumber? with
  | some left, some right => left == right
  | some _, none => false
  | none, some _ => false
  | none, none =>
    match left, right with
    | .null, .null => true
    | .number left, .number right => left == right && left != .undefined
    | .text left, .text right => left == right
    | .date left, .date right => left == right
    | .moment left, .moment right => left == right
    | .octets left, .octets right => left == right
    | _, _ => false

/-- Whether a value can be a key of a mapping. -/
def isKey : Value → Bool
  | .list _ => false
  | .mapping _ => false
  | .members _ => false
  | _ => true

def isText (expected : String) : Value → Bool
  | .text content => content == expected
  | _ => false

end Value

/-- Gives a key a value: in its place if the key is there, after all others if not. -/
def putEntry (key value : Value) : List (Value × Value) → List (Value × Value)
  | [] => [(key, value)]
  | (present, old) :: entries =>
    if present.sameKey key then (present, value) :: entries
    else (present, old) :: putEntry key value entries

end Scaffold
