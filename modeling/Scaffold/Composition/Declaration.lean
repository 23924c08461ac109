import Scaffold.Text.Blank
import Scaffold.Text.Letters
import Scaffold.Text.Search

/-!
# The list of declarations

A composition file lists its classes between the brackets after the word `declarations` and a
colon. An entry is appended as the entries before it are laid out: on the same line, or on a line of
its own with the indentation of the last one, and with a comma after it if the last one has one.
-/

set_option autoImplicit false

namespace Scaffold.Composition

/-- What turns the name of a class into a reference to it. -/
def referenceMark : List Char :=
  [':', ':', 'c', 'l', 'a', 's', 's']

def reference (name : List Char) : List Char :=
  name ++ referenceMark

def isWordAt : Option Char → Bool
  | none => false
  | some character => Text.isWord character

def refersFrom (pattern : List Char) (before : Option Char) : List Char → Bool
  | [] => false
  | character :: rest =>
    (!isWordAt before && (Text.after? pattern (character :: rest)).isSome) ||
      refersFrom pattern (some character) rest

/-- Whether a text refers to a class anywhere by its whole name. -/
def refersTo (name text : List Char) : Bool :=
  refersFrom (reference name) none text

def listMark : List Char :=
  "declarations".toList

/-- What follows the bracket that opens the list, if its opening is here. -/
def afterOpening? (text : List Char) : Option (List Char) := do
  let rest ← Text.after? listMark text
  let rest ← Text.after? [':'] (Text.trimLeft rest)
  Text.after? ['['] (Text.trimLeft rest)

def listStartFrom (start : Nat) (before : Option Char) : List Char → Option Nat
  | [] => none
  | character :: rest =>
    match if isWordAt before then none else afterOpening? (character :: rest) with
    | some inside => some (start + ((character :: rest).length - inside.length))
    | none => listStartFrom (start + 1) (some character) rest

/-- The position after the bracket that opens the list. -/
def listStart? (text : List Char) : Option Nat :=
  listStartFrom 0 none text

/-- The position of the first closing bracket at or after a position. -/
def listEnd? (text : List Char) (start : Nat) : Option Nat :=
  Text.findFrom [']'] start (text.drop start)

/-- The entries between the brackets. -/
def entries (body : List Char) : List (List Char) :=
  ((body.splitOn ',').map Text.trim).filter (!·.isEmpty)

/-- How much deeper the entries of a list are than the line that opens it. -/
def indentStep : List Char :=
  [' ', ' ', ' ', ' ']

def isMultiline (body : List Char) : Bool :=
  body.contains '\n'

/-- What stands before a new entry and after the comma of the one before it. -/
def entrySeparator (body baseIndent : List Char) : List Char :=
  let filled := Text.trimRight body
  if isMultiline filled then '\n' :: Text.indentation (Text.lastLine filled)
  else if isMultiline body then '\n' :: baseIndent ++ indentStep
  else [' ']

/-- The text between the brackets with an entry appended to it. -/
def appendEntry (body entry baseIndent : List Char) : List Char :=
  let filled := Text.trimRight body
  let trailing := body.drop filled.length
  if filled.isEmpty then
    '\n' :: baseIndent ++ indentStep ++ entry ++ [',', '\n'] ++ baseIndent
  else
    let hasComma := filled.getLast? == some ','
    let head := if hasComma then filled else filled ++ [',']
    let comma := if hasComma then [','] else []
    head ++ entrySeparator body baseIndent ++ entry ++ comma ++ trailing

end Scaffold.Composition
