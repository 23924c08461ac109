import Scaffold.Disk.Fault
import Scaffold.Disk.Path
import Scaffold.Disk.Tree
import Scaffold.Text.Lines
import Scaffold.Text.Utf8

/-!
# The disk

A tree, the place where relative paths start, the permissions that new files lack, and the faults to
come. A path is walked name by name, with double dots one place up; every name but the last must
be that of a directory. A check whether something is there takes no such entry for an answer and
lets other faults through.
-/

set_option autoImplicit false

namespace Scaffold

structure Disk where
  tree : Tree
  start : Place
  umask : Nat
  injection : Injection

/-- Steps on a disk that can fail, whose effects before a failure stay. -/
abbrev DiskAction (ε : Type) := ExceptT ε (StateM Disk)

namespace Disk

def nameLimit : Nat := 255

def isLongName (name : String) : Bool :=
  nameLimit < name.utf8ByteSize

def checkDirectory (tree : Tree) (place : Place) : Except DiskFault Unit :=
  match tree.item? place with
  | none => .error .noEntry
  | some (.file _ _) => .error .notDirectory
  | some .directory => .ok ()

/-- The place that names lead to from a place. -/
def walk (tree : Tree) : Place → List String → Except DiskFault Place
  | place, [] => .ok place
  | place, name :: names => do
    checkDirectory tree place
    if name = ".." then walk tree place.dropLast names
    else if isLongName name then .error .nameTooLong
    else walk tree (place ++ [name]) names

def placeOf (disk : Disk) (path : Path) : Except DiskFault Place :=
  walk disk.tree (if path.isAbsolute then [] else disk.start) path.parts

/-- What is at a path. -/
def status (disk : Disk) (path : Path) : Except DiskFault Item := do
  let place ← disk.placeOf path
  match disk.tree.item? place with
  | some item => .ok item
  | none => .error .noEntry

/-- What is at a path, if anything. -/
def look (disk : Disk) (path : Path) : Except DiskFault (Option Item) :=
  if path.hasNull then .ok none
  else
    match disk.status path with
    | .ok item => .ok (some item)
    | .error fault => if fault.meansAbsent then .ok none else .error fault

/-- The permissions of a new file. -/
def newMode (disk : Disk) : Nat :=
  0o666 &&& (0o777 ^^^ (disk.umask &&& 0o777))

end Disk

namespace DiskAction

def look (path : Path) : DiskAction DiskFault (Option Item) := do
  match (← get).look path with
  | .ok item => return item
  | .error fault => throw fault

def fileExists (path : Path) : DiskAction DiskFault Bool :=
  Option.isSome <$> look path

def isFile (path : Path) : DiskAction DiskFault Bool :=
  (Option.any Item.isFile) <$> look path

def isDirectory (path : Path) : DiskAction DiskFault Bool :=
  (Option.any Item.isDirectory) <$> look path

def takeReadFault : DiskAction DiskFault Unit := do
  let disk ← get
  set { disk with injection.reads := disk.injection.reads.later }
  match disk.injection.reads 0 with
  | some fault => throw fault
  | none => return ()

inductive ReadFault where
  | disk (fault : DiskFault)
  | undecodable (octets : Text.Undecodable)

def ReadFault.message : ReadFault → String
  | .disk fault => fault.message
  | .undecodable octets => octets.message

def octetsAt (path : Path) : DiskAction DiskFault ByteArray := do
  takeReadFault
  match (← get).status path with
  | .error fault => throw fault
  | .ok .directory => throw .isDirectory
  | .ok (.file octets _) => return octets

/-- The text of a file, every line end of it a feed. -/
def readText (path : Path) : DiskAction ReadFault String := do
  let octets ← (octetsAt path).adapt ReadFault.disk
  match Text.decode octets with
  | .ok text => return String.ofList (Text.feedLines text.toList)
  | .error undecodable => throw (.undecodable undecodable)

/-- The names of the directories in a directory, in code point order. -/
def directoryNames (path : Path) : DiskAction DiskFault (List String) := do
  let disk ← get
  match disk.placeOf path with
  | .error fault => throw fault
  | .ok place =>
    let names := (disk.tree.children place).filterMap fun (name, item) =>
      if item.isDirectory then some name else none
    return names.mergeSort fun left right => left ≤ right

end DiskAction

end Scaffold
