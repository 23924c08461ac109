import Scaffold.Text.Blank
import Scaffold.Text.Lines
import Scaffold.Text.Search

/-!
# Import lines

The lines of a composition file that import one class: the word `use`, blanks, a name up to the
first semicolon, and at most spaces and tabs after it.
-/

set_option autoImplicit false

namespace Scaffold.Composition

/-- Whether a name begins here and a semicolon ends it before the line does. -/
def isNamed : List Char → Bool
  | [] => false
  | first :: rest =>
    first != ';' && !Text.isBlank first &&
      match rest.dropWhile (· ≠ ';') with
      | [] => false
      | _ :: ending => ending.all fun character => character == ' ' || character == '\t'

def isImportLine (line : List Char) : Bool :=
  match Text.after? ['u', 's', 'e'] line with
  | none => false
  | some rest => !(Text.indentation rest).isEmpty && isNamed (Text.trimLeft rest)

/-- The line that imports a class. -/
def importLine (className : List Char) : List Char :=
  ['u', 's', 'e', ' '] ++ className ++ [';']

/-- The import lines of a text, without what follows the semicolons. -/
def imports (text : List Char) : List (List Char) :=
  (((Text.lines text).map Text.Line.body).filter isImportLine).map Text.trimRight

/-- Whether a line imports a class and ends in a return or a feed, or in nothing. -/
def endsImport (line : Text.Line) : Bool :=
  let plainEnding := line.ending.all fun character => character == '\r' || character == '\n'
  isImportLine (if plainEnding then line.body else line.toList)

def importsEndFrom (start : Nat) : List Text.Line → Option Nat
  | [] => none
  | line :: lines =>
    let finish := start + line.toList.length
    match importsEndFrom finish lines with
    | some later => some later
    | none => if endsImport line then some finish else none

/-- The position after the last import line. -/
def importsEnd? (text : List Char) : Option Nat :=
  importsEndFrom 0 (Text.lines text)

end Scaffold.Composition
