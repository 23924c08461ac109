import Scaffold.Keyed
import Scaffold.Value.Basic

/-!
# Named values

Options, parameters and the variables of a template: values under names.
-/

set_option autoImplicit false

namespace Scaffold

abbrev Fields := Keyed String Value

namespace Fields

def get? (fields : Fields) (name : String) : Option Value :=
  Keyed.get? name fields

def has (fields : Fields) (name : String) : Bool :=
  (fields.get? name).isSome

def put (name : String) (value : Value) (fields : Fields) : Fields :=
  Keyed.put name value fields

def overlay (lower upper : Fields) : Fields :=
  Keyed.overlay lower upper

def ofList (entries : List (String × Value)) : Fields :=
  Keyed.ofList entries

def toValue (fields : Fields) : Value :=
  .mapping (fields.map fun field => (.text field.1, field.2))

end Fields

end Scaffold
