/-!
# Classes of characters

The digits, signs and padding that documents are written with. Other scripts have digits of their
own, which are none here.
-/

set_option autoImplicit false

namespace Scaffold.Yaml

def isDigit (character : Char) : Bool :=
  '0' ≤ character && character ≤ '9'

def dropSign : List Char → List Char
  | '+' :: rest => rest
  | '-' :: rest => rest
  | content => content

/-- Whether a character only keeps words on a line apart. -/
def isPadding (character : Char) : Bool :=
  character == ' ' || character == '\t'

end Scaffold.Yaml
