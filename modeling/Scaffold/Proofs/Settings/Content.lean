import Scaffold.Proofs.Disk.Replace
import Scaffold.Proofs.Result
import Scaffold.Proofs.Settings.Store
import Scaffold.Proofs.Yaml.Flaw

/-!
# What the settings file answers with

A file that holds settings answers with them, and one that holds none with no settings and one
warning. Only a scalar that has the form of a value and denotes none keeps a file from answering.
-/

set_option autoImplicit false

namespace Scaffold.Settings

/-- Whether the file of a project has settings: its text can be read, is well formed, and has the
shape of settings. -/
def Holds (disk : Disk) (root : Path) (settings : Settings) : Prop :=
  ∃ text value, DiskAction.textAt disk (file root) = .ok text ∧ Yaml.read text = .ok value ∧
    ofValue value = .ok settings

/-- Whether the file of a project can be read and has a scalar that denotes no value. -/
def SpoiltBy (disk : Disk) (root : Path) (fault : Yaml.ScalarFault) : Prop :=
  ∃ text, DiskAction.textAt disk (file root) = .ok text ∧ Yaml.Spoilt text fault

/-- The settings that the file of a project answers with, and the workspace after that: without a
file and with one that holds settings nothing is printed, and with one that holds none exactly one
warning. -/
inductive Answers (root : Path) (workspace : Workspace) : Settings → Workspace → Prop where
  | absent {seen : Option Item} :
      workspace.disk.look (file root) = .ok seen → seen.any Item.isFile = false →
      Answers root workspace .empty (keeping .empty none workspace)
  | valid {settings : Settings} {octets : ByteArray} {mode : Nat} :
      workspace.disk.look (file root) = .ok (some (.file octets mode)) →
      Holds workspace.disk root settings →
      Answers root workspace settings (keeping settings none (afterReading workspace))
  | invalid {fault : SettingsFault} {octets : ByteArray} {mode : Nat} :
      workspace.disk.look (file root) = .ok (some (.file octets mode)) →
      (∀ settings, ¬Holds workspace.disk root settings) →
      Answers root workspace .empty
        (keeping .empty (some (readWarning fault)) (afterReading workspace))

variable {root : Path} {workspace : Workspace} {disk : Disk} {settings : Settings}

/-! ## Reading the file -/

theorem ofText_eq_ok_iff {text : String} :
    ofText text = .ok settings ↔
      ∃ value, Yaml.read text = .ok value ∧ ofValue value = .ok settings := by
  unfold ofText
  cases Yaml.read text with
  | error fault => cases fault <;> simp
  | ok value => simp [Result.mapError_eq_ok_iff]

theorem ofText_eq_scalar_iff {text : String} {fault : Yaml.ScalarFault} :
    ofText text = .error (.scalar fault) ↔ Yaml.Spoilt text fault := by
  rw [Yaml.spoilt_iff]
  unfold ofText
  cases Yaml.read text with
  | error other => cases other <;> simp
  | ok value =>
    dsimp only
    cases ofValue value <;> constructor <;> intro same <;> cases same

theorem readingOf_eq_ok_iff : readingOf disk root = .ok settings ↔ Holds disk root settings := by
  unfold readingOf Holds
  cases DiskAction.textAt disk (file root) with
  | error fault => simp
  | ok text => simp [ofText_eq_ok_iff]

theorem readingOf_eq_scalar_iff {fault : Yaml.ScalarFault} :
    readingOf disk root = .error (.scalar fault) ↔ SpoiltBy disk root fault := by
  unfold readingOf SpoiltBy
  cases DiskAction.textAt disk (file root) with
  | error other => simp
  | ok text => simp [ofText_eq_scalar_iff]

/-! ## Asking for the settings -/

theorem answers_of_exec_load {next : Workspace} (unread : workspace.settings = none)
    (loaded : exec (load root) workspace = (.ok settings, next)) :
    Answers root workspace settings next := by
  cases looked : workspace.disk.look (file root) with
  | error fault =>
    rw [exec_load_of_unread unread, looked] at loaded
    cases loaded
  | ok seen =>
    cases isFile : seen.any Item.isFile with
    | false =>
      rw [exec_load_of_unread unread, looked] at loaded
      simp only [isFile] at loaded
      cases loaded
      exact .absent looked isFile
    | true =>
      obtain ⟨octets, mode, rfl⟩ := Item.any_isFile_iff.1 isFile
      rw [exec_load_of_file unread looked] at loaded
      cases reading : readingOf workspace.disk root with
      | ok held =>
        rw [reading] at loaded
        cases loaded
        exact .valid looked (readingOf_eq_ok_iff.1 reading)
      | error fault =>
        rw [reading] at loaded
        cases fault with
        | scalar fault => cases loaded
        | settings fault =>
          cases loaded
          refine .invalid looked fun settings holds => ?_
          rw [readingOf_eq_ok_iff.2 holds] at reading
          cases reading

theorem fst_exec_load_eq_error_iff {octets : ByteArray} {mode : Nat} {fault : StoreFault}
    (unread : workspace.settings = none)
    (found : workspace.disk.look (file root) = .ok (some (.file octets mode))) :
    (exec (load root) workspace).1 = .error fault ↔
      ∃ scalar, fault = .scalar scalar ∧ SpoiltBy workspace.disk root scalar := by
  rw [exec_load_of_file unread found]
  simp only [← readingOf_eq_scalar_iff]
  cases readingOf workspace.disk root with
  | ok settings => simp
  | error other => cases other <;> simp [eq_comm]

theorem exists_exec_load {octets : ByteArray} {mode : Nat} (unread : workspace.settings = none)
    (found : workspace.disk.look (file root) = .ok (some (.file octets mode)))
    (unspoilt : ∀ scalar, ¬SpoiltBy workspace.disk root scalar) :
    ∃ settings next, exec (load root) workspace = (.ok settings, next) := by
  cases loaded : exec (load root) workspace with
  | mk result next =>
    cases result with
    | ok settings => exact ⟨settings, next, rfl⟩
    | error fault =>
      have failed : (exec (load root) workspace).1 = .error fault := by rw [loaded]
      obtain ⟨scalar, -, spoilt⟩ := (fst_exec_load_eq_error_iff unread found).1 failed
      exact absurd spoilt (unspoilt scalar)

/-- A disk with a settings file in the directory where paths start. -/
def diskWith (text : String) : Disk :=
  Disk.withFile fileName (Text.encode text) 0o644

theorem look_diskWith (text : String) :
    (diskWith text).look (file ⟨.relative, []⟩) = .ok (some (.file (Text.encode text) 0o644)) :=
  rfl

theorem textAt_diskWith (text : String) :
    DiskAction.textAt (diskWith text) (file ⟨.relative, []⟩) =
      .ok (String.ofList (Text.feedLines text.toList)) := by
  have quiet : (diskWith text).injection.reads 0 = none := rfl
  have found : (diskWith text).status (file ⟨.relative, []⟩) =
      .ok (.file (Text.encode text) 0o644) :=
    rfl
  unfold DiskAction.textAt
  rw [quiet, found]
  dsimp only
  rw [Text.decode_encode]

theorem spoiltBy_diskWith_iff {text : String} {fault : Yaml.ScalarFault} :
    SpoiltBy (diskWith text) ⟨.relative, []⟩ fault ↔
      (Yaml.read (String.ofList (Text.feedLines text.toList))).map (fun _ => ()) =
        .error (.scalar fault) := by
  unfold SpoiltBy
  rw [textAt_diskWith]
  simp only [Except.ok.injEq, exists_eq_left', Yaml.spoilt_iff]
  cases Yaml.read (String.ofList (Text.feedLines text.toList)) <;> simp [Except.map]

/-- Settings that are well formed and of a wrong shape. -/
def misshapen : String :=
  "project: [namespace]\n"

theorem not_spoiltBy_misshapen (scalar : Yaml.ScalarFault) :
    ¬SpoiltBy (diskWith misshapen) ⟨.relative, []⟩ scalar := by
  intro spoilt
  have failed := spoiltBy_diskWith_iff.1 spoilt
  have read : (Yaml.read (String.ofList (Text.feedLines misshapen.toList))).map (fun _ => ()) =
      .ok () := by
    decide +kernel
  rw [read] at failed
  cases failed

end Scaffold.Settings
