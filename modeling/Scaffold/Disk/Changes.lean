import Scaffold.Disk.Tree

/-!
# What changed

The files that are new or differ, the new directories and the places that are gone, between two
trees.
-/

set_option autoImplicit false

namespace Scaffold

structure Changes where
  files : List (Place × ByteArray × Nat)
  directories : List Place
  removed : List Place

namespace Tree

def changedFile? (before : Tree) : Place × Item → Option (Place × ByteArray × Nat)
  | (_, .directory) => none
  | (place, .file octets mode) =>
    if before.item? place = some (.file octets mode) then none else some (place, octets, mode)

def isNewDirectory (before : Tree) : Place × Item → Bool
  | (place, .directory) => before.item? place ≠ some .directory
  | (_, .file _ _) => false

/-- The changes from one tree to another. -/
def changes (before after : Tree) : Changes where
  files := after.entries.filterMap (changedFile? before)
  directories := (after.entries.filter (isNewDirectory before)).map Prod.fst
  removed := (before.entries.filter fun entry => (after.item? entry.1).isNone).map Prod.fst

end Tree

end Scaffold
