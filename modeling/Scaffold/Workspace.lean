import Scaffold.Disk.Write
import Scaffold.Settings.Basic

/-!
# Workspaces

What a run works on: a disk, the settings once they have been read, and what has been printed. What
is printed belongs to the report of the run or warns of its settings.
-/

set_option autoImplicit false

namespace Scaffold

inductive Channel where
  | report
  | warning
  deriving DecidableEq, Repr

structure Printed where
  channel : Channel
  text : String
  deriving DecidableEq, Repr

/-- What has been printed, the first text first. -/
abbrev Transcript := List Printed

structure Workspace where
  disk : Disk
  settings : Option Settings
  transcript : Transcript

/-- Steps on a workspace that can fail, whose effects before a failure stay. -/
abbrev WorkspaceAction (ε : Type) := ExceptT ε (StateM Workspace)

namespace Workspace

def start (disk : Disk) : Workspace :=
  ⟨disk, none, []⟩

/-- What has been printed on a channel. -/
def printed (workspace : Workspace) (channel : Channel) : String :=
  String.join
    ((workspace.transcript.filter fun printed => printed.channel = channel).map Printed.text)

end Workspace

namespace WorkspaceAction

variable {ε α : Type}

def print (channel : Channel) (text : String) : WorkspaceAction ε Unit :=
  modify fun workspace =>
    { workspace with transcript := workspace.transcript ++ [⟨channel, text⟩] }

def report (text : String) : WorkspaceAction ε Unit :=
  print .report text

/-- Runs steps on the disk of a workspace. -/
def onDisk (action : DiskAction ε α) : WorkspaceAction ε α := do
  let workspace ← get
  let (result, disk) := action.run.run workspace.disk
  set { workspace with disk }
  match result with
  | .ok value => return value
  | .error fault => throw fault

/-- The result of steps, a failure of them included. -/
def attempt {ζ : Type} (action : WorkspaceAction ζ α) : WorkspaceAction ε (Except ζ α) := do
  let workspace ← get
  let (result, workspace) := action.run.run workspace
  set workspace
  return result

end WorkspaceAction

end Scaffold
