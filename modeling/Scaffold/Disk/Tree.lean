import Scaffold.Keyed

/-!
# Trees of files

The files and directories of a disk by their places: the names on the way from the root, which is
always a directory.
-/

set_option autoImplicit false

namespace Scaffold

abbrev Place := List String

inductive Item where
  | directory
  | file (octets : ByteArray) (mode : Nat)

instance : DecidableEq Item
  | .directory, .directory => isTrue rfl
  | .directory, .file _ _ => isFalse nofun
  | .file _ _, .directory => isFalse nofun
  | .file left mode, .file right other =>
    decidable_of_iff (left.data = right.data ∧ mode = other)
      (by rw [Item.file.injEq, ByteArray.ext_iff])

namespace Item

def isDirectory : Item → Bool
  | .directory => true
  | .file _ _ => false

def isFile : Item → Bool
  | .directory => false
  | .file _ _ => true

end Item

/-- At every place there is at most one item. -/
structure Tree where
  entries : Keyed Place Item
  distinct : (Keyed.keys entries).Nodup

namespace Tree

/-- The tree that holds nothing but its root. -/
def bare : Tree :=
  ⟨[], List.nodup_nil⟩

def item? (tree : Tree) (place : Place) : Option Item :=
  if place = [] then some .directory else Keyed.get? place tree.entries

def put (place : Place) (item : Item) (tree : Tree) : Tree :=
  ⟨Keyed.put place item tree.entries, Keyed.nodup_keys_put place item tree.entries tree.distinct⟩

def remove (place : Place) (tree : Tree) : Tree :=
  ⟨Keyed.erase place tree.entries, Keyed.nodup_keys_erase place tree.entries tree.distinct⟩

/-- The names directly under a place with what they name. -/
def children (tree : Tree) (place : Place) : List (String × Item) :=
  tree.entries.filterMap fun (there, item) =>
    match there.getLast? with
    | some name => if there.dropLast = place then some (name, item) else none
    | none => none

/-- Makes the directories that are not there, from a place along names up to the last but one. -/
def putDirectories (above : Place) : List String → Tree → Tree
  | [], tree => tree
  | [_], tree => tree
  | name :: names, tree =>
    let place := above ++ [name]
    putDirectories place names
      (if (tree.item? place).isNone then tree.put place .directory else tree)

theorem item?_put (place other : Place) (item : Item) (tree : Tree) (named : place ≠ []) :
    (tree.put place item).item? other = if other = place then some item else tree.item? other := by
  unfold item? put
  rw [Keyed.get?_put]
  by_cases root : other = []
  · subst root
    simp [named.symm]
  · simp [root]

theorem item?_remove (place other : Place) (tree : Tree) (named : place ≠ []) :
    (tree.remove place).item? other = if other = place then none else tree.item? other := by
  unfold item? remove
  rw [Keyed.get?_erase]
  by_cases root : other = []
  · subst root
    simp [named.symm]
  · simp [root]

end Tree

end Scaffold
