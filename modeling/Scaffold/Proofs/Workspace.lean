import Scaffold.Proofs.Disk.Exec
import Scaffold.Workspace

/-!
# Steps on a workspace

What steps on the disk of a workspace give and leave, and what is left of steps that are tried.
-/

set_option autoImplicit false

namespace Scaffold

/-- A workspace after texts were printed for the report. -/
def Workspace.reporting (texts : List String) (workspace : Workspace) : Workspace :=
  { workspace with transcript := workspace.transcript ++ texts.map (Printed.mk .report) }

namespace Workspace

variable (workspace : Workspace)

@[simp] theorem reporting_nil : workspace.reporting [] = workspace := by
  rw [reporting, List.map_nil, List.append_nil]

theorem reporting_reporting (first second : List String) :
    (workspace.reporting first).reporting second = workspace.reporting (first ++ second) := by
  simp [reporting, List.append_assoc]

end Workspace

namespace WorkspaceAction

variable {ε ζ α : Type}

@[simp] theorem exec_onDisk (action : DiskAction ε α) (workspace : Workspace) :
    exec (onDisk action) workspace =
      ((exec action workspace.disk).1,
        { workspace with disk := (exec action workspace.disk).2 }) := by
  have ran : StateT.run (ExceptT.run action) workspace.disk = exec action workspace.disk := rfl
  simp only [onDisk, exec_bind, exec_get, ran]
  cases exec action workspace.disk with
  | mk result disk => cases result <;> rfl

@[simp] theorem exec_attempt (action : WorkspaceAction ζ α) (workspace : Workspace) :
    exec (attempt action : WorkspaceAction ε (Except ζ α)) workspace =
      (.ok (exec action workspace).1, (exec action workspace).2) := rfl

@[simp] theorem exec_report (text : String) (workspace : Workspace) :
    exec (report text : WorkspaceAction ε Unit) workspace =
      (.ok (), workspace.reporting [text]) := rfl

end WorkspaceAction

end Scaffold
