import Scaffold.Composition.Declaration
import Scaffold.Composition.Import

/-!
# Composition documents

The text of a composition file with the places where a class is registered: after the last import
line and between the brackets of the list of declarations. All other text stays as it is.
-/

set_option autoImplicit false

namespace Scaffold.Composition

/-- Why a text has no place to register a class. -/
inductive LayoutFault where
  | noImports
  | noDeclarations
  | unterminatedDeclarations
  deriving DecidableEq, Repr

def LayoutFault.message : LayoutFault → String
  | .noImports => "No import statements found in composition file."
  | .noDeclarations => "No 'declarations: [...]' list found in composition file."
  | .unterminatedDeclarations => "Unterminated declarations list in composition file."

/-- The list of declarations from its start to its end. -/
structure Span where
  start : Nat
  finish : Nat
  deriving DecidableEq, Repr

structure Document where
  text : List Char
  importsEnd : Nat
  list : Span
  deriving DecidableEq, Repr

def findImportsEnd (text : List Char) : Except LayoutFault Nat :=
  match importsEnd? text with
  | some position => .ok position
  | none => .error .noImports

def findList (text : List Char) : Except LayoutFault Span :=
  match listStart? text with
  | none => .error .noDeclarations
  | some start =>
    match listEnd? text start with
    | none => .error .unterminatedDeclarations
    | some finish => .ok ⟨start, finish⟩

namespace Document

def parse (text : List Char) : Except LayoutFault Document := do
  let importsEnd ← findImportsEnd text
  return ⟨text, importsEnd, ← findList text⟩

def imports (document : Document) : List (List Char) :=
  Composition.imports document.text

/-- The text between the brackets. -/
def body (document : Document) : List Char :=
  (document.text.take document.list.finish).drop document.list.start

def declarations (document : Document) : List (List Char) :=
  entries document.body

def refersTo (document : Document) (name : List Char) : Bool :=
  Composition.refersTo name document.text

/-- The indentation of the line that opens the list. -/
def listIndent (document : Document) : List Char :=
  Text.indentation (Text.lastLine (document.text.take document.list.start))

/-- A part of a text and what takes its place. -/
structure Edit where
  start : Nat
  finish : Nat
  replacement : List Char
  deriving DecidableEq, Repr

def Edit.apply (text : List Char) (edit : Edit) : List Char :=
  text.take edit.start ++ edit.replacement ++ text.drop edit.finish

/-- The edit that imports a class, none if it is imported. -/
def importEdit? (document : Document) (className : List Char) : Option Edit :=
  let line := importLine className
  if document.imports.contains line then none
  else
    let before := document.text.take document.importsEnd
    let feed := if before.getLast? = some '\n' then [] else ['\n']
    some ⟨document.importsEnd, document.importsEnd, feed ++ line ++ ['\n']⟩

/-- The edit that appends a reference to a class to the list. -/
def listEdit (document : Document) (name : List Char) : Edit :=
  ⟨document.list.start, document.list.finish,
    appendEntry document.body (reference name) document.listIndent⟩

/-- The edits of a registration from the last place in the text to the first. -/
def edits (document : Document) (className name : List Char) : List Edit :=
  let listEdit := document.listEdit name
  match document.importEdit? className with
  | none => [listEdit]
  | some importEdit =>
    if importEdit.start < listEdit.start then [listEdit, importEdit] else [importEdit, listEdit]

/-- The text with a class imported and listed. -/
def editedText (document : Document) (className name : List Char) : List Char :=
  (document.edits className name).foldl Edit.apply document.text

/-- Registers a class. If the new text has no such places any more, the document holds it with the
places that were found last. -/
def register (document : Document) (className name : List Char) :
    Document × Except LayoutFault Unit :=
  let text := document.editedText className name
  let document := { document with text }
  match findImportsEnd text with
  | .error fault => (document, .error fault)
  | .ok importsEnd =>
    let document := { document with importsEnd }
    match findList text with
    | .error fault => (document, .error fault)
    | .ok list => ({ document with list }, .ok ())

end Document

end Scaffold.Composition
