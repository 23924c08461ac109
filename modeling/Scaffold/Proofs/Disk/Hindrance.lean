import Scaffold.Proofs.Disk.Write

/-!
# Writes that are hindered

A write with faults forced on any of its steps. A fault keeps a step from having its effect, except
that a write to the temporary file may have put any octets there by then. No step is carried out
twice in one write, so a choice of one fault for each step covers all the ways in which writes fail.
A write that nothing hinders is the write that runs.
-/

set_option autoImplicit false

namespace Scaffold

/-- The steps of a write that can fail. A directory is made anew once those above it are there. -/
inductive WriteStep where
  | make (path : Path)
  | makeAnew (path : Path)
  | check (path : Path)
  | lookUpMode
  | makeTemporary
  | fill
  | permit
  | rename
  | discard
  deriving DecidableEq

/-- Which steps of a write fail, and what the temporary file holds after a failed write to it. -/
structure Hindrance where
  fault : WriteStep → Option DiskFault
  partly : ByteArray

namespace Hindrance

def none : Hindrance :=
  ⟨fun _ => .none, .empty⟩

def atSteps (steps : List WriteStep) (fault : DiskFault) : Hindrance :=
  ⟨fun step => if step ∈ steps then some fault else .none, .empty⟩

def writeFault (hindrance : Hindrance) (step : WriteStep) : Option WriteFault :=
  (hindrance.fault step).map .disk

end Hindrance

namespace DiskAction

variable {ε α : Type}

/-- Carries out a step unless there is a fault to come. -/
def unlessHindered (fault : Option ε) (action : DiskAction ε α) : DiskAction ε α :=
  match fault with
  | some fault => throw fault
  | none => action

@[simp] theorem unlessHindered_none (action : DiskAction ε α) :
    unlessHindered none action = action := rfl

/-! ## Directories -/

/-- Accepts that a directory could not be made where one is, unless that is for want of one above
it. -/
def unlessThereHindered (hindrance : Hindrance) (path : Path) (fault : DiskFault) :
    DiskAction DiskFault Unit :=
  if fault = .noEntry then throw fault
  else unlessHindered (hindrance.fault (.check path)) (unlessThere path fault)

def makeAllHindered (hindrance : Hindrance) (path : Path) : Nat → DiskAction DiskFault Unit
  | 0 => throw .noEntry
  | above + 1 =>
    tryCatch (unlessHindered (hindrance.fault (.make path)) (makeOne path)) fun fault =>
      if fault = .noEntry && !path.parts.isEmpty then do
        makeAllHindered hindrance path.parent above
        tryCatch (unlessHindered (hindrance.fault (.makeAnew path)) (makeOne path))
          (unlessThereHindered hindrance path)
      else unlessThereHindered hindrance path fault

def makeDirectoriesHindered (hindrance : Hindrance) (path : Path) : DiskAction WriteFault Unit :=
  if path.hasNull then throw .nullCharacter
  else (makeAllHindered hindrance path (path.parts.length + 1)).adapt WriteFault.disk

/-! ## Files -/

def fillHindered (hindrance : Hindrance) (place : Place) (octets : ByteArray) :
    DiskAction WriteFault Unit :=
  match hindrance.writeFault .fill with
  | some fault => do
    modify fun disk => { disk with tree := disk.tree.put place (.file hindrance.partly 0o600) }
    throw fault
  | none => fill place octets 0o600

/-- Gives the file at a place its permissions. -/
def permit (place : Place) (mode : Nat) : DiskAction WriteFault Unit := do
  let disk ← get
  match disk.tree.item? place with
  | some (.file octets _) =>
    set { disk with tree := disk.tree.put place (.file octets mode) }
  | _ => throw (.disk .noEntry)

/-- Fills a temporary file, gives it its permissions and then its path. -/
def publishHindered (hindrance : Hindrance) (temporary : Place) (path : Path) (octets : ByteArray)
    (mode : Nat) : DiskAction WriteFault Unit := do
  fillHindered hindrance temporary octets
  unlessHindered (hindrance.writeFault .permit) (permit temporary mode)
  unlessHindered (hindrance.writeFault .rename) (rename temporary path)

def replaceHindered (hindrance : Hindrance) (temporary : Place) (path : Path) (octets : ByteArray)
    (mode : Nat) : DiskAction WriteFault Unit :=
  tryCatch (publishHindered hindrance temporary path octets mode) fun fault => do
    unlessHindered (hindrance.writeFault .discard) (discard temporary)
    throw fault

def writeBesideHindered (hindrance : Hindrance) (path : Path) (octets : ByteArray) :
    DiskAction WriteFault Unit := do
  let mode ← unlessHindered (hindrance.writeFault .lookUpMode) (modeFor path)
  let temporary ← unlessHindered (hindrance.writeFault .makeTemporary) (makeTemporary path)
  replaceHindered hindrance temporary path octets mode

/-- Writes a text to a file, with a fault at each step that is hindered. -/
def writeHindered (hindrance : Hindrance) (path : Path) (content : String) :
    DiskAction WriteFault Unit := do
  makeDirectoriesHindered hindrance path.parent
  if path.hasNull then throw .nullCharacter
  writeBesideHindered hindrance path (Text.encode content)

/-! ## Writes that are not hindered -/

/-- Where a directory could not be made for want of one above it, there is none. -/
theorem exec_unlessThere_of_noEntry {path : Path} {disk middle : Disk}
    (failed : exec (makeOne path) disk = (.error .noEntry, middle)) :
    exec (unlessThere path .noEntry) middle = (.error .noEntry, middle) := by
  rw [makeOne, exec_bind, exec_get] at failed
  cases led : disk.placeOf path with
  | ok place =>
    cases present : disk.tree.item? place <;> simp [led, present, DiskFault.noEntry,
      DiskFault.fileExists] at failed
  | error fault =>
    simp only [led, exec_throw, Prod.mk.injEq, Except.error.injEq] at failed
    obtain ⟨rfl, rfl⟩ := failed
    have looked : disk.look path = .ok none := by
      simp [Disk.look, Disk.status, led, bind, Except.bind, DiskFault.meansAbsent]
    simp [unlessThere, exec_isDirectory, looked, Except.map]

theorem exec_unlessThereHindered_none {path : Path} {disk middle : Disk} {fault : DiskFault}
    (failed : exec (makeOne path) disk = (.error fault, middle)) :
    exec (unlessThereHindered .none path fault) middle = exec (unlessThere path fault) middle := by
  unfold unlessThereHindered
  by_cases missing : fault = .noEntry
  · subst missing
    rw [if_pos rfl, exec_unlessThere_of_noEntry failed, exec_throw]
  · rw [if_neg missing]
    rfl

theorem exec_makeAllHindered_none (path : Path) (above : Nat) (disk : Disk) :
    exec (makeAllHindered .none path above) disk = exec (makeAll path above) disk := by
  induction above generalizing path disk with
  | zero => rfl
  | succ above ih =>
    have again (middle : Disk) :
        exec (tryCatch (makeOne path) (unlessThereHindered .none path)) middle =
          exec (tryCatch (makeOne path) (unlessThere path)) middle := by
      rw [exec_tryCatch, exec_tryCatch]
      cases made : exec (makeOne path) middle with
      | mk result final =>
        cases result with
        | ok => rfl
        | error fault => exact exec_unlessThereHindered_none made
    simp only [makeAllHindered, makeAll, exec_tryCatch]
    cases made : exec (makeOne path) disk with
    | mk result middle =>
      have made' : exec (unlessHindered (Hindrance.none.fault (.make path)) (makeOne path)) disk =
          (result, middle) := made
      rw [made']
      cases result with
      | ok => rfl
      | error fault =>
        by_cases missing : (decide (fault = .noEntry) && !path.parts.isEmpty) = true
        · simp only [if_pos missing, exec_bind, ih]
          cases exec (makeAll path.parent above) middle with
          | mk result grown =>
            cases result with
            | error fault => rfl
            | ok => exact again grown
        · simp only [if_neg missing]
          exact exec_unlessThereHindered_none made

theorem exec_makeDirectoriesHindered_none (path : Path) (disk : Disk) :
    exec (makeDirectoriesHindered .none path) disk = exec (makeDirectories path) disk := by
  unfold makeDirectoriesHindered makeDirectories
  cases path.hasNull with
  | true => rfl
  | false => simp only [Bool.false_eq_true, if_false, exec_adapt, exec_makeAllHindered_none]

theorem exec_permit {place : Place} (named : place ≠ []) (octets : ByteArray) (old mode : Nat)
    (disk : Disk) (injection : Injection) :
    exec (permit place mode) { disk with tree := disk.tree.put place (.file octets old), injection } =
      (.ok (), { disk with tree := disk.tree.put place (.file octets mode), injection }) := by
  have present : (disk.tree.put place (.file octets old)).item? place =
      some (.file octets old) := by
    rw [Tree.item?_put _ _ _ _ named, if_pos rfl]
  simp [permit, present, Tree.put_put]

theorem exec_publishHindered_none {temporary : Place} (named : temporary ≠ []) (path : Path)
    (octets : ByteArray) (mode : Nat) (disk : Disk) :
    exec (publishHindered .none temporary path octets mode) disk =
      exec (do
        fill temporary octets mode
        rename temporary path) disk := by
  have unhindered : publishHindered .none temporary path octets mode = (do
      fill temporary octets 0o600
      permit temporary mode
      rename temporary path) := rfl
  rw [unhindered, exec_bind, exec_bind, exec_fill, exec_fill]
  cases disk.injection.writes 0 with
  | some fault => rfl
  | none => simp only [exec_bind, exec_permit named]

theorem exec_writeBesideHindered_none (path : Path) (octets : ByteArray) (disk : Disk) :
    exec (writeBesideHindered .none path octets) disk = exec (writeBeside path octets) disk := by
  have unhindered : writeBesideHindered .none path octets = (do
      let mode ← modeFor path
      let temporary ← makeTemporary path
      replaceHindered .none temporary path octets mode) := rfl
  rw [unhindered, writeBeside, exec_bind, exec_bind, exec_modeFor]
  cases disk.look path with
  | error fault => rfl
  | ok seen =>
    simp only [Except.mapError, Except.map, exec_bind]
    rcases exec_makeTemporary path disk with ⟨fault, stopped⟩ | ⟨directory, name, temporary⟩
    · rw [stopped]
    · rw [exec_makeTemporary_of_hasTemporary temporary]
      have named : directory ++ [name] ≠ [] := by simp
      simp only [replaceHindered, replaceWith, exec_tryCatch, exec_publishHindered_none named]
      rfl

/-- A write that nothing hinders is the write that runs. -/
theorem exec_writeHindered_none (path : Path) (content : String) (disk : Disk) :
    exec (writeHindered .none path content) disk = exec (writeWhole path content) disk := by
  rw [exec_writeWhole, writeHindered, exec_bind, exec_makeDirectoriesHindered_none]
  cases exec (makeDirectories path.parent) disk with
  | mk result grown =>
    cases result with
    | error fault => rfl
    | ok =>
      cases path.hasNull with
      | true => rfl
      | false => exact exec_writeBesideHindered_none path (Text.encode content) grown

end DiskAction

end Scaffold
