import Scaffold.Artifact.Preview
import Scaffold.Console.Report
import Scaffold.Generator.Modules

/-!
# Making the files

The artifacts of a request are made one after the other, up to the first that is refused. What is
there already is never written over. A dry run makes none and shows a preview of each.
-/

set_option autoImplicit false

namespace Scaffold.Generator

def write (artifact : Artifact) (target : Path) : Action Unit := do
  match ← WorkspaceAction.attempt
      (WorkspaceAction.onDisk (DiskAction.writeWhole target artifact.content)) with
  | .ok () => return ()
  | .error .nullCharacter => throw (.mishap .nullCharacter)
  | .error (.disk fault) => refuse (.unwritten artifact.kind target fault.reason [])

def isThere (target : Path) : Action Bool :=
  WorkspaceAction.onDisk
    ((DiskAction.fileExists target).adapt fun fault => Failure.mishap (.disk fault))

/-- Makes the file of an artifact. -/
def create (root : Path) (artifact : Artifact) : Action Path := do
  let target := artifact.target root
  if ← isThere target then refuse (.alreadyExists artifact.kind target [])
  else
    write artifact target
    WorkspaceAction.report
      (Console.success ("Created " ++ artifact.kind ++ ": " ++ artifact.pathText))
    return target

/-- Makes the files of artifacts after those that were made before. -/
def createAfter (root : Path) (made : List Path) : List Artifact → Action (List Path)
  | [] => return made
  | artifact :: artifacts => do
    let target ← tryCatch (create root artifact) fun failure =>
      match failure with
      | .refused refusal => throw (.refused (refusal.after made))
      | .mishap mishap => throw (.mishap mishap)
    createAfter root (made ++ [target]) artifacts

def createAll (root : Path) (artifacts : List Artifact) : Action (List Path) :=
  createAfter root [] artifacts

def previewEach (root : Path) : List Artifact → Action (List Path)
  | [] => return []
  | artifact :: artifacts => do
    WorkspaceAction.report (Console.preview (Preview.ofArtifact artifact))
    return artifact.target root :: (← previewEach root artifacts)

def previewAll (root : Path) (artifacts : List Artifact) : Action (List Path) := do
  WorkspaceAction.report (Console.warning "DRY RUN MODE - No files will be created")
  WorkspaceAction.report (Console.line "")
  let targets ← previewEach root artifacts
  WorkspaceAction.report
    (Console.note "Dry run complete. Run without --dry-run to create files.")
  return targets

/-- Makes the files of artifacts, or shows them in a dry run. -/
def materialize (root : Path) (isDryRun : Bool) (artifacts : List Artifact) :
    Action (List Path) :=
  if isDryRun then previewAll root artifacts else createAll root artifacts

end Scaffold.Generator
