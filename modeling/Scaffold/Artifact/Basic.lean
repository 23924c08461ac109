import Scaffold.Disk.Path
import Scaffold.Shape.Check
import Scaffold.Text.Quoted
import Scaffold.Value.Fields

/-!
# Artifacts

A file to be made below the root of a project: where, with what content, and what kind of thing it
is. Its path is relative and never goes up; backslashes count as slashes.
-/

set_option autoImplicit false

namespace Scaffold

structure Artifact where
  parts : List String
  content : String
  kind : String
  deriving DecidableEq, Repr

namespace Artifact

def path (artifact : Artifact) : Path :=
  ⟨.relative, artifact.parts⟩

def pathText (artifact : Artifact) : String :=
  artifact.path.toString

/-- Where the file of an artifact is in a project. -/
def target (root : Path) (artifact : Artifact) : Path :=
  ⟨root.anchor, root.parts ++ artifact.parts⟩

def slash (character : Char) : Char :=
  if character = '\\' then '/' else character

/-- The components of a path below the root of a project, none if the text is no such path. -/
def parts? (text : String) : Option (List String) :=
  let path := Path.ofString (String.ofList (text.toList.map slash))
  if text = "" || path.isAbsolute || path.parts.contains ".." then none else some path.parts

def checkPath (value : Value) : Checked (List String) := do
  let text ← Checked.text value
  match parts? text with
  | some parts => return parts
  | none =>
    Checked.fail
      (.rejected ("artifact path must be relative to the project root: " ++ Text.quote text))

def field {α : Type} (fields : Fields) (name : String) (check : Value → Checked α) :
    Checked α :=
  ((fields.get? name).elim (Checked.fail .missing) check).within name

/-- The artifact that fields describe. -/
def ofFields (fields : Fields) : Checked Artifact :=
  ((field fields "path" checkPath).and (field fields "content" Checked.text)).and
      (field fields "kind" Checked.text)
    |>.map fun ((parts, content), kind) => ⟨parts, content, kind⟩

def make (path content kind : String) : Checked Artifact :=
  ofFields [("path", .text path), ("content", .text content), ("kind", .text kind)]

end Artifact

end Scaffold
