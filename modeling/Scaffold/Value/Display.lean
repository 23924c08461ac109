import Scaffold.Number.Shortest
import Scaffold.Text.Quoted
import Scaffold.Value.Basic

/-!
# The text of a value

How a value stands in generated text and in messages. A text stands as it is; inside a list or a
mapping it is quoted.
-/

set_option autoImplicit false

namespace Scaffold.Value

mutual

/-- The text of a value as an item of another. -/
def quoted : Value → String
  | .null => "None"
  | .truth holds => if holds then "True" else "False"
  | .integer amount => toString amount
  | .number amount => amount.toText
  | .text content => Text.quote content
  | .date day => day.quoted
  | .moment time => time.quoted
  | .octets content => String.ofList (Text.quotedOctets content)
  | .list items => "[" ++ ", ".intercalate (quotedItems items) ++ "]"
  | .mapping entries => "\x7b" ++ ", ".intercalate (quotedEntries entries) ++ "\x7d"
  | .members contained =>
    if contained.isEmpty then "set()"
    else "\x7b" ++ ", ".intercalate (quotedItems contained) ++ "\x7d"

def quotedItems : List Value → List String
  | [] => []
  | item :: items => item.quoted :: quotedItems items

def quotedEntries : List (Value × Value) → List String
  | [] => []
  | (key, value) :: entries => (key.quoted ++ ": " ++ value.quoted) :: quotedEntries entries

end

def display : Value → String
  | .text content => content
  | .date day => day.toText
  | .moment time => time.toText " "
  | value => value.quoted

end Scaffold.Value
