import Scaffold.Text.WordCase
import Scaffold.Value.Display
import Scaffold.Value.Fields

/-!
# Templates

A template is a sequence of rows of text, texts within a row, values of variables, import lines and
choices between two sequences. Only the parts that a choice takes are looked at, and a variable that
is not there is a fault where it is first needed.
-/

set_option autoImplicit false

namespace Scaffold

/-- What a choice depends on: that a variable holds, that one of two conditions does, or that a
variable is a certain text. A condition after one that holds is not looked at. -/
inductive Condition where
  | holds (name : String)
  | either (first second : Condition)
  | both (first second : Condition)
  | is (name text : String)
  deriving Repr

inductive Piece where
  | rows (rows : List String)
  | text (content : String)
  | value (name : String)
  | imports (name : String)
  | choice (condition : Condition) (holding otherwise : List Piece)
  deriving Repr

abbrev Template := List Piece

inductive RenderFault where
  | undefined (name : String)
  | notItems (value : Value)
  deriving Repr

namespace Value

/-- The name of the kind of a value. -/
def kindName : Value → String
  | .null => "NoneType"
  | .truth _ => "bool"
  | .integer _ => "int"
  | .number _ => "float"
  | .text _ => "str"
  | .date _ => "datetime.date"
  | .moment _ => "datetime.datetime"
  | .octets _ => "bytes"
  | .list _ => "list"
  | .mapping _ => "dict"
  | .members _ => "set"

/-- The values that a value consists of, if it consists of values. -/
def items? : Value → Option (List Value)
  | .text content => some (content.toList.map fun character => .text (String.singleton character))
  | .octets content => some (content.map fun octet => .integer octet.toNat)
  | .list items => some items
  | .mapping entries => some (entries.map Prod.fst)
  | .members contained => some contained
  | _ => none

end Value

namespace RenderFault

def message : RenderFault → String
  | .undefined name => "'" ++ name ++ "' is undefined"
  | .notItems value => "'" ++ value.kindName ++ "' object is not iterable"

end RenderFault

namespace Template

/-- What stands for variables that are always there. -/
def standing : List (String × String) :=
  [("namespace", "<class 'jinja2.utils.Namespace'>")]

def variableOf (context : Fields) (name : String) : Except RenderFault Value :=
  match context.get? name with
  | some value => .ok value
  | none =>
    match standing.lookup name with
    | some text => .ok (.text text)
    | none => .error (.undefined name)

def importLine (name : String) : String :=
  "use " ++ name ++ ";"

/-- The import lines of the items of a value, one under the other. -/
def importLines (value : Value) : Except RenderFault String :=
  match value.items? with
  | some items => .ok ("\n".intercalate (items.map fun item => importLine item.display))
  | none => .error (.notItems value)

def isMet (context : Fields) : Condition → Except RenderFault Bool
  | .holds name => do return (← variableOf context name).holds
  | .is name text => do return (← variableOf context name).isText text
  | .either first second => do
    if ← isMet context first then return true else isMet context second
  | .both first second => do
    if ← isMet context first then isMet context second else return false

def row (text : String) : String :=
  text ++ "\n"

mutual

def renderPiece (context : Fields) : Piece → Except RenderFault String
  | .rows rows => .ok (String.join (rows.map row))
  | .text content => .ok content
  | .value name => do return (← variableOf context name).display
  | .imports name => do importLines (← variableOf context name)
  | .choice condition holding otherwise => do
    if ← isMet context condition then renderPieces context holding
    else renderPieces context otherwise

def renderPieces (context : Fields) : List Piece → Except RenderFault String
  | [] => .ok ""
  | piece :: pieces => do
    let first ← renderPiece context piece
    return first ++ (← renderPieces context pieces)

end

/-- The text of a template with the values of a context. -/
def render (template : Template) (context : Fields) : Except RenderFault String :=
  renderPieces context template

end Template

end Scaffold
