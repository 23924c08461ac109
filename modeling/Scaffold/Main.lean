import Scaffold.CommandLine.Program
import Scaffold.Disk.Changes

/-!
# The executable

Takes the part of the disk that a run can look at, runs the program on it, prints what it says, and
carries out what it changed.
-/

set_option autoImplicit false

namespace Scaffold.Main

/-- How many directories below one another are looked at. -/
private def depthLimit : Nat := 64

private def entryAt (place : Place) : IO.FS.DirEntry :=
  ⟨"", "/".intercalate place⟩

private def contentOf (entry : IO.FS.DirEntry) : IO ByteArray :=
  tryCatch (IO.FS.readBinFile entry.path) fun _ => return .empty

/-- What is at an entry, if anything. -/
private def itemAt (entry : IO.FS.DirEntry) : IO (Option Item) :=
  tryCatch
    (do
      match (← entry.path.metadata).type with
      | .dir => return some .directory
      | _ => return some (.file (← contentOf entry) 0o644))
    fun _ => return none

/-- Adds what is at an entry and below it to a tree. -/
private def takeBelow : Nat → Place → IO.FS.DirEntry → Tree → IO Tree
  | 0, _, _, tree => return tree
  | depth + 1, place, entry, tree => do
    match ← itemAt entry with
    | none => return tree
    | some .directory =>
      let children ← entry.path.readDir
      children.foldlM
        (fun tree child => takeBelow depth (place ++ [child.fileName]) child tree)
        (tree.put place .directory)
    | some item => return tree.put place item

/-- Adds what is on the way to a place and at it. -/
private def takeAlong (place : Place) (tree : Tree) : IO Tree :=
  (List.range place.length).foldlM
    (fun tree above => do
      let there := place.take (above + 1)
      match ← itemAt (entryAt there) with
      | none => return tree
      | some item => return tree.put there item)
    tree

/-- The place of a path, with double dots one place up. -/
private def placeFrom (start : Place) (path : Path) : Place :=
  path.parts.foldl (fun place name => if name = ".." then place.dropLast else place ++ [name])
    (if path.isAbsolute then [] else start)

/-- What a run looks at below the root of a project. -/
private def watched : List String :=
  [Settings.fileName, "src"]

private def takeProject (root : Place) : IO Tree := do
  let tree ← takeAlong root .bare
  watched.foldlM
    (fun tree name => takeBelow depthLimit (root ++ [name]) (entryAt (root ++ [name])) tree) tree

private def rootOf (texts : List String) (surroundings : CommandLine.Surroundings) : Path :=
  match CommandLine.parse texts with
  | .ok (.parsed root _ _) => CommandLine.resolveRoot root surroundings
  | _ => surroundings.directory

private def carryOut (changes : Changes) : IO Unit := do
  changes.directories.forM fun place => IO.FS.createDirAll (entryAt place).path
  changes.files.forM fun (place, octets, _) => IO.FS.writeBinFile (entryAt place).path octets

private def surroundings : IO CommandLine.Surroundings := do
  return ⟨← IO.getEnv "SPATIAL_ROOT", Path.ofString (← IO.currentDir).toString⟩

private def exit : Except Generator.Failure CommandLine.Exit → CommandLine.Exit
  | .ok exit => exit
  | .error (.refused refusal) => ⟨1, "", refusal.message ++ "\n"⟩
  | .error (.mishap mishap) => ⟨1, "", mishap.message ++ "\n"⟩

def run (texts : List String) : IO UInt32 := do
  let surroundings ← surroundings
  let start := surroundings.directory.parts
  let tree ← takeProject (placeFrom start (rootOf texts surroundings))
  let disk : Disk := ⟨tree, start, 0o022, .quiet⟩
  let (result, workspace) := (CommandLine.main texts surroundings).run.run (Workspace.start disk)
  let exit := exit result
  carryOut (tree.changes workspace.disk.tree)
  IO.print (String.join (workspace.transcript.map Printed.text))
  IO.print exit.output
  IO.eprint exit.error
  return exit.code.toUInt32

end Scaffold.Main

def main (texts : List String) : IO UInt32 :=
  Scaffold.Main.run texts
