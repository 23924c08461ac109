import Scaffold.Proofs.Disk.Looking
import Scaffold.Proofs.Workspace
import Scaffold.Settings.Precedence

/-!
# What asking for the settings leaves

Settings that are kept are given as they are. Otherwise the file is looked for and read at most once,
and what it holds is kept. Nothing on the disk changes but that one fault for reading is used up.
-/

set_option autoImplicit false

namespace Scaffold

/-- Whether one workspace comes from another without a change on its disk, where faults to come may
have been used up. -/
def Workspace.Unwritten (old new : Workspace) : Prop :=
  new.disk = { old.disk with injection := new.disk.injection }

namespace Workspace.Unwritten

variable {first second : Workspace}

theorem refl (workspace : Workspace) : workspace.Unwritten workspace := rfl

theorem tree (unwritten : first.Unwritten second) : second.disk.tree = first.disk.tree := by
  rw [unwritten]

end Workspace.Unwritten

namespace Settings

variable {root : Path} {workspace : Workspace}

/-- The settings that the file of a project reads as. -/
def readingOf (disk : Disk) (root : Path) : Except ReadingFault Settings :=
  match DiskAction.textAt disk (file root) with
  | .error fault => .error (.settings (.unreadable fault.message))
  | .ok text => ofText text

theorem exec_readFile (root : Path) (disk : Disk) :
    exec (readFile root) disk = (readingOf disk root, DiskAction.afterRead disk) := by
  simp only [readFile, exec_bind, exec_adapt, DiskAction.exec_readText, readingOf]
  cases DiskAction.textAt disk (file root) <;> rfl

theorem exec_isPresent (root : Path) (disk : Disk) :
    exec (isPresent root) disk =
      ((disk.look (file root)).map (Option.any Item.isFile), disk) :=
  DiskAction.exec_isFile (file root) disk

/-- The workspace in which settings are kept, after the text of a warning if there is one. -/
def keeping (settings : Settings) (warning : Option String) (workspace : Workspace) : Workspace :=
  { workspace with
    settings := some settings
    transcript := workspace.transcript ++ (warning.map (Printed.mk .warning)).toList }

def readWarning (fault : SettingsFault) : String :=
  Console.wrappedWarning ("Warning: " ++ fault.message)

/-- The workspace after a text was read from its disk. -/
def afterReading (workspace : Workspace) : Workspace :=
  { workspace with disk := DiskAction.afterRead workspace.disk }

theorem exec_load_of_kept {settings : Settings} (kept : workspace.settings = some settings) :
    exec (load root) workspace = (.ok settings, workspace) := by
  simp only [load, exec_bind, exec_get, kept, exec_pure]

theorem exec_load_of_unread (unread : workspace.settings = none) :
    exec (load root) workspace =
      match workspace.disk.look (file root) with
      | .error fault => (.error (.disk fault), workspace)
      | .ok seen =>
        if seen.any Item.isFile then
          match readingOf workspace.disk root with
          | .ok settings => (.ok settings, keeping settings none (afterReading workspace))
          | .error (.scalar fault) => (.error (.scalar fault), afterReading workspace)
          | .error (.settings fault) =>
            (.ok .empty, keeping .empty (some (readWarning fault)) (afterReading workspace))
        else (.ok .empty, keeping .empty none workspace) := by
  simp only [load, exec_bind, exec_get, unread, WorkspaceAction.exec_onDisk, exec_adapt,
    exec_isPresent]
  cases workspace.disk.look (file root) with
  | error fault => simp [Except.map, ← unread]
  | ok seen =>
    cases isFile : Option.any Item.isFile seen with
    | false => simp [Except.map, isFile, keep, keeping]
    | true =>
      simp only [Except.map, isFile, Bool.not_true, Bool.false_eq_true, if_false, if_true,
        exec_bind, WorkspaceAction.exec_attempt, WorkspaceAction.exec_onDisk, exec_readFile]
      cases readingOf workspace.disk root with
      | ok settings => simp [keep, keeping, afterReading]
      | error fault =>
        cases fault with
        | scalar fault => simp [afterReading, unread]
        | settings fault =>
          simp [keep, keeping, WorkspaceAction.print, readWarning, afterReading]

theorem exec_load_of_file {octets : ByteArray} {mode : Nat} (unread : workspace.settings = none)
    (found : workspace.disk.look (file root) = .ok (some (.file octets mode))) :
    exec (load root) workspace =
      match readingOf workspace.disk root with
      | .ok settings => (.ok settings, keeping settings none (afterReading workspace))
      | .error (.scalar fault) => (.error (.scalar fault), afterReading workspace)
      | .error (.settings fault) =>
        (.ok .empty, keeping .empty (some (readWarning fault)) (afterReading workspace)) := by
  rw [exec_load_of_unread unread, found]
  rfl

theorem exec_load_of_no_file {seen : Option Item} (unread : workspace.settings = none)
    (looked : workspace.disk.look (file root) = .ok seen)
    (absent : ∀ octets mode, seen ≠ some (.file octets mode)) :
    exec (load root) workspace = (.ok .empty, keeping .empty none workspace) := by
  rw [exec_load_of_unread unread, looked]
  cases seen with
  | none => rfl
  | some item =>
    cases item with
    | directory => rfl
    | file octets mode => exact absurd rfl (absent octets mode)

/-- How asking for the settings ends: with settings, which are then kept, with a disk that cannot
tell whether there is a file of them, or with a scalar in it that denotes no value. -/
inductive Loads (root : Path) (workspace : Workspace) :
    Except StoreFault Settings × Workspace → Prop where
  | kept {settings : Settings} {next : Workspace} :
      next.settings = some settings → workspace.Unwritten next →
      Loads root workspace (.ok settings, next)
  | unseen {fault : DiskFault} :
      workspace.settings = none → workspace.disk.look (file root) = .error fault →
      Loads root workspace (.error (.disk fault), workspace)
  | scalar {fault : Yaml.ScalarFault} {octets : ByteArray} {mode : Nat} :
      workspace.settings = none →
      workspace.disk.look (file root) = .ok (some (.file octets mode)) →
      readingOf workspace.disk root = .error (.scalar fault) →
      Loads root workspace (.error (.scalar fault), afterReading workspace)

theorem loads_load (root : Path) (workspace : Workspace) :
    Loads root workspace (exec (load root) workspace) := by
  cases kept : workspace.settings with
  | some settings =>
    rw [exec_load_of_kept kept]
    exact .kept kept (.refl workspace)
  | none =>
    rw [exec_load_of_unread kept]
    cases looked : workspace.disk.look (file root) with
    | error fault => exact .unseen kept looked
    | ok seen =>
      cases seen with
      | none => exact .kept rfl rfl
      | some item =>
        cases item with
        | directory => exact .kept rfl rfl
        | file octets mode =>
          simp only [Option.any_some, Item.isFile, if_true]
          cases reading : readingOf workspace.disk root with
          | ok settings => exact .kept rfl rfl
          | error fault =>
            cases fault with
            | scalar fault => exact .scalar kept looked reading
            | settings fault => exact .kept rfl rfl

theorem keeps_of_exec_load {settings : Settings} {next : Workspace}
    (loaded : exec (load root) workspace = (.ok settings, next)) :
    next.settings = some settings := by
  have loads := loads_load root workspace
  rw [loaded] at loads
  cases loads with
  | kept kept _ => exact kept

theorem Loads.unwritten {result : Except StoreFault Settings × Workspace}
    (loads : Loads root workspace result) : workspace.Unwritten result.2 := by
  cases loads with
  | kept _ unwritten => exact unwritten
  | unseen => exact .refl workspace
  | scalar => rfl

end Settings

end Scaffold
