import Scaffold.Console.Report
import Scaffold.Workspace

/-!
# The stored settings

The settings of a project are read when they are first asked for and kept until they are forgotten.
No file means no settings. A file that cannot be read or holds none is warned of once, and then
there are no settings either.
-/

set_option autoImplicit false

namespace Scaffold.Settings

/-- Why asking for the settings fails: the disk cannot say whether there is a file, or a scalar in
it denotes no value. -/
inductive StoreFault where
  | disk (fault : DiskFault)
  | scalar (fault : Yaml.ScalarFault)
  deriving DecidableEq, Repr

def file (root : Path) : Path :=
  root.child fileName

def isPresent (root : Path) : DiskAction DiskFault Bool :=
  DiskAction.isFile (file root)

def readFile (root : Path) : DiskAction ReadingFault Settings := do
  let text ← (DiskAction.readText (file root)).adapt fun fault =>
    ReadingFault.settings (.unreadable fault.message)
  ofText text

def keep (settings : Settings) : WorkspaceAction StoreFault Settings := do
  modify fun workspace => { workspace with settings := some settings }
  return settings

/-- The settings in force, read from the file if none are kept. -/
def load (root : Path) : WorkspaceAction StoreFault Settings := do
  match (← get).settings with
  | some settings => return settings
  | none =>
    let present ← WorkspaceAction.onDisk ((isPresent root).adapt StoreFault.disk)
    if !present then keep .empty
    else
      match ← WorkspaceAction.attempt (WorkspaceAction.onDisk (readFile root)) with
      | .ok settings => keep settings
      | .error (.scalar fault) => throw (.scalar fault)
      | .error (.settings fault) =>
        WorkspaceAction.print .warning (Console.wrappedWarning ("Warning: " ++ fault.message))
        keep .empty

/-- Forgets the settings that are kept. -/
def forget : WorkspaceAction StoreFault Unit :=
  modify fun workspace => { workspace with settings := none }

end Scaffold.Settings
