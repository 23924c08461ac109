import Scaffold.Composition.Document
import Scaffold.Disk.Write

/-!
# Registration in a composition file

A class is registered in a file unless the file refers to it already. A file that is not there, that
has no place for it, or that cannot be read or written is left as it is, and the outcome says so.
-/

set_option autoImplicit false

namespace Scaffold.Composition

inductive Outcome where
  | registered
  | alreadyRegistered
  | missingFile
  | patternMismatch (fault : LayoutFault)
  | unwritable (reason : String)
  deriving DecidableEq, Repr

namespace Outcome

/-- Whether the file refers to the class afterwards. -/
def isRegistered : Outcome → Bool
  | .registered | .alreadyRegistered => true
  | _ => false

def reason : Outcome → String
  | .patternMismatch fault => fault.message
  | .unwritable reason => reason
  | _ => ""

end Outcome

/-- The text of a file after a registration. -/
def registeredText (text className name : List Char) : Except LayoutFault (List Char) := do
  let (document, result) := (← Document.parse text).register className name
  result
  return document.text

def write (path : Path) (text : List Char) : DiskAction WriteFault Outcome := do
  tryCatch
    (do
      DiskAction.writeWhole path (String.ofList text)
      return .registered)
    fun fault =>
      match fault with
      | .disk fault => return .unwritable fault.message
      | .nullCharacter => throw fault

def registerIn (path : Path) (className name : List Char) (text : List Char) :
    DiskAction WriteFault Outcome :=
  if refersTo name text then return .alreadyRegistered
  else
    match registeredText text className name with
    | .error fault => return .patternMismatch fault
    | .ok text => write path text

/-- Registers a class by its full and its short name in the file at a path. -/
def register (path : Path) (className name : String) : DiskAction WriteFault Outcome := do
  if ← (DiskAction.isFile path).adapt WriteFault.disk then
    let read : DiskAction WriteFault (Except DiskAction.ReadFault String) := do
      let (result, disk) := (DiskAction.readText path).run.run (← get)
      set disk
      return result
    match ← read with
    | .error fault => return .unwritable fault.message
    | .ok text => registerIn path className.toList name.toList text.toList
  else return .missingFile

end Scaffold.Composition
