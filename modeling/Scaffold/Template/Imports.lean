import Scaffold.Template.Basic

/-!
# Sets of imports

The names that a file imports: those it always does and those of the groups that are wanted, each
once and in code point order.
-/

set_option autoImplicit false

namespace Scaffold.Template

/-- Names that are imported together if a condition holds. -/
structure ImportGroup where
  wanted : Bool
  names : List String
  deriving Repr

/-- Puts a name into an ascending list that does not hold it twice. -/
def insertName (name : String) : List String → List String
  | [] => [name]
  | first :: names =>
    if name < first then name :: first :: names
    else if first < name then first :: insertName name names
    else first :: names

def sortedNames (names : List String) : List String :=
  names.foldr insertName []

def importNames (base : List String) (groups : List ImportGroup) : List String :=
  sortedNames (base ++ (groups.filter ImportGroup.wanted).flatMap ImportGroup.names)

end Scaffold.Template
