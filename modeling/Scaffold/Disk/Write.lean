import Scaffold.Disk.Basic

/-!
# Writing a file

A file is written whole or not at all: to a temporary file beside it that is then renamed. The
temporary file is gone afterwards in every case. A file that is replaced keeps its permissions, and
a new one has those that the disk gives.
-/

set_option autoImplicit false

namespace Scaffold

/-- Why a file was not written: a fault of the disk, or a path that no file can have. -/
inductive WriteFault where
  | disk (fault : DiskFault)
  | nullCharacter
  deriving DecidableEq, Repr

namespace DiskAction

def ofResult {α : Type} (result : Except DiskFault α) : DiskAction WriteFault α :=
  match result with
  | .ok value => return value
  | .error fault => throw (.disk fault)

/-- Makes a directory in one that is there. -/
def makeOne (path : Path) : DiskAction DiskFault Unit := do
  let disk ← get
  match disk.placeOf path with
  | .error fault => throw fault
  | .ok place =>
    match disk.tree.item? place with
    | some _ => throw .fileExists
    | none => set { disk with tree := disk.tree.put place .directory }

/-- Accepts that a directory could not be made where one is. -/
def unlessThere (path : Path) (fault : DiskFault) : DiskAction DiskFault Unit := do
  if ← isDirectory path then return () else throw fault

/-- Makes a directory and, as far as they are not there, the `above` directories above it. -/
def makeAll (path : Path) : Nat → DiskAction DiskFault Unit
  | 0 => throw .noEntry
  | above + 1 =>
    tryCatch (makeOne path) fun fault =>
      if fault = .noEntry && !path.parts.isEmpty then do
        makeAll path.parent above
        tryCatch (makeOne path) (unlessThere path)
      else unlessThere path fault

/-- Makes a directory with those above it. -/
def makeDirectories (path : Path) : DiskAction WriteFault Unit :=
  if path.hasNull then throw .nullCharacter
  else (makeAll path (path.parts.length + 1)).adapt WriteFault.disk

def temporaryName (name : String) (number : Nat) : String :=
  let digits := toString number
  let token := "".pushn '0' (8 - digits.length) ++ digits
  "." ++ name ++ "." ++ token ++ ".tmp"

/-- The first temporary name of a file that is free in a directory. -/
def freeName? (tree : Tree) (directory : Place) (name : String) (number : Nat) :
    Nat → Option String
  | 0 => none
  | attempts + 1 =>
    let candidate := temporaryName name number
    if (tree.item? (directory ++ [candidate])).isNone then some candidate
    else freeName? tree directory name (number + 1) attempts

def nameAttempts : Nat := 10000

/-- Makes an empty temporary file beside a path that only its owner may use. -/
def makeTemporary (path : Path) : DiskAction WriteFault Place := do
  let disk ← get
  let directory ← ofResult (disk.placeOf path.parent)
  match freeName? disk.tree directory path.name 0 nameAttempts with
  | none => throw (.disk .noTemporaryName)
  | some name =>
    if Disk.isLongName name then throw (.disk .nameTooLong)
    let place := directory ++ [name]
    set { disk with tree := disk.tree.put place (.file .empty 0o600) }
    return place

def takeWriteFault : DiskAction WriteFault Unit := do
  let disk ← get
  set { disk with injection.writes := disk.injection.writes.later }
  match disk.injection.writes 0 with
  | some fault => throw (.disk fault)
  | none => return ()

def takeRenameFault : DiskAction WriteFault Unit := do
  let disk ← get
  set { disk with injection.renames := disk.injection.renames.later }
  match disk.injection.renames 0 with
  | some fault => throw (.disk fault)
  | none => return ()

def fill (place : Place) (octets : ByteArray) (mode : Nat) :
    DiskAction WriteFault Unit := do
  takeWriteFault
  modify fun disk => { disk with tree := disk.tree.put place (.file octets mode) }

/-- Why no file can be given the path of a directory. -/
def directoryFault (path : Path) : DiskFault :=
  if path.name = ".." then .busy else .isDirectory

/-- Gives the file at a place the path of another, in place of a file that has it. -/
def rename (place : Place) (path : Path) : DiskAction WriteFault Unit := do
  takeRenameFault
  let disk ← get
  let target ← ofResult (disk.placeOf path)
  match disk.tree.item? target, disk.tree.item? place with
  | some .directory, _ => throw (.disk (directoryFault path))
  | _, some item => set { disk with tree := (disk.tree.remove place).put target item }
  | _, none => throw (.disk .noEntry)

def discard (place : Place) : DiskAction WriteFault Unit :=
  modify fun disk => { disk with tree := disk.tree.remove place }

def modeFor (path : Path) : DiskAction WriteFault Nat := do
  let disk ← get
  match ← ofResult (disk.look path) with
  | some (.file _ mode) => return mode
  | some .directory => return 0o755
  | none => return disk.newMode

/-- Writes a text to a file, whole or not at all. -/
def writeWhole (path : Path) (content : String) : DiskAction WriteFault Unit := do
  makeDirectories path.parent
  if path.hasNull then throw .nullCharacter
  let mode ← modeFor path
  let temporary ← makeTemporary path
  tryCatch
    (do
      fill temporary (Text.encode content) mode
      rename temporary path)
    fun fault => do
      discard temporary
      throw fault

end DiskAction

end Scaffold
