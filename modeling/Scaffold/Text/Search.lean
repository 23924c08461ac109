/-!
# Places in a text

Positions count characters from the start of a text.
-/

set_option autoImplicit false

namespace Scaffold.Text

/-- The text after `pattern`, if the text begins with it. -/
def after? : List Char → List Char → Option (List Char)
  | [], text => some text
  | _ :: _, [] => none
  | expected :: pattern, character :: text =>
    if expected = character then after? pattern text else none

/-- The first position at or after `start` where `pattern` begins; `text` is what is left there. -/
def findFrom (pattern : List Char) (start : Nat) : List Char → Option Nat
  | [] => if pattern.isEmpty then some start else none
  | character :: rest =>
    if (after? pattern (character :: rest)).isSome then some start
    else findFrom pattern (start + 1) rest

def find? (pattern text : List Char) : Option Nat :=
  findFrom pattern 0 text

def contains (pattern text : List Char) : Bool :=
  (find? pattern text).isSome

/-- What follows the last feed, or the whole text if it has none. -/
def lastLine (text : List Char) : List Char :=
  (text.reverse.takeWhile (· ≠ '\n')).reverse

def join (separator : List Char) (parts : List (List Char)) : List Char :=
  separator.intercalate parts

end Scaffold.Text
