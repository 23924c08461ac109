import Scaffold.Proofs.Disk.Growth
import Scaffold.Proofs.Keyed

/-!
# Directories that are listed

What stands directly in a directory, by its names. On a well-named tree every name is one that a
path can hold as a single component, so a directory is listed by a name if and only if the path
that goes on by this name leads to it.
-/

set_option autoImplicit false

namespace Scaffold

/-- Whether a text can be the name of an entry of a directory. -/
structure IsEntryName (name : String) : Prop where
  filled : name ≠ ""
  notSelf : name ≠ "."
  notParent : name ≠ ".."
  single : '/' ∉ name.toList
  noNull : '\x00' ∉ name.toList
  short : Disk.isLongName name = false

instance (name : String) : Decidable (IsEntryName name) :=
  decidable_of_iff
    (name ≠ "" ∧ name ≠ "." ∧ name ≠ ".." ∧ '/' ∉ name.toList ∧ '\x00' ∉ name.toList ∧
      Disk.isLongName name = false)
    ⟨fun ⟨filled, notSelf, notParent, single, noNull, short⟩ =>
      ⟨filled, notSelf, notParent, single, noNull, short⟩,
    fun ⟨filled, notSelf, notParent, single, noNull, short⟩ =>
      ⟨filled, notSelf, notParent, single, noNull, short⟩⟩

namespace Tree

/-- Whether everything in a tree is under names that entries of directories can have. -/
def WellNamed (tree : Tree) : Prop :=
  ∀ place item, tree.item? place = some item → ∀ name ∈ place, IsEntryName name

theorem wellNamed_of_entries {tree : Tree}
    (named : ∀ entry ∈ tree.entries, ∀ name ∈ entry.1, IsEntryName name) : tree.WellNamed := by
  intro place item found
  unfold item? at found
  split at found
  · next root =>
    subst root
    exact List.forall_mem_nil _
  · exact named _ ((Keyed.mem_iff_get?_eq_some tree.distinct).2 found)

theorem sound_of_entries {tree : Tree}
    (above : ∀ entry ∈ tree.entries, tree.item? entry.1.dropLast = some .directory) :
    tree.Sound := by
  intro place item found
  by_cases root : place = []
  · rw [root]
    rfl
  · rw [item?, if_neg root] at found
    exact above _ ((Keyed.mem_iff_get?_eq_some tree.distinct).2 found)

theorem mem_children_iff {tree : Tree} {place : Place} {name : String} {item : Item} :
    (name, item) ∈ tree.children place ↔ tree.item? (place ++ [name]) = some item := by
  have filled : place ++ [name] ≠ [] := by simp
  rw [item?, if_neg filled, ← Keyed.mem_iff_get?_eq_some tree.distinct, children,
    List.mem_filterMap]
  constructor
  · rintro ⟨⟨there, held⟩, member, listed⟩
    cases last : there.getLast? with
    | none => simp [last] at listed
    | some found =>
      simp only [last] at listed
      split at listed
      · next above =>
        cases listed
        obtain ⟨front, rfl⟩ := List.getLast?_eq_some_iff.1 last
        rw [List.dropLast_concat] at above
        rwa [← above]
      · cases listed
  · intro member
    exact ⟨_, member, by simp⟩

/-- No two children of a place have one name. -/
theorem pairwise_children (tree : Tree) (place : Place) :
    (tree.children place).Pairwise fun child other => child.1 ≠ other.1 := by
  have distinct : tree.entries.Pairwise fun entry other => entry.1 ≠ other.1 :=
    List.pairwise_map.1 tree.distinct
  -- The place and the name of a child make up the place of its entry.
  refine List.Pairwise.filterMap _ ?_ distinct
  rintro ⟨here, item⟩ ⟨there, other⟩ different ⟨name, _⟩ listed ⟨another, _⟩ listedAlso same
  apply different
  cases last : here.getLast? with
  | none => simp [last] at listed
  | some found =>
    cases lastAlso : there.getLast? with
    | none => simp [lastAlso] at listedAlso
    | some foundAlso =>
      obtain ⟨front, rfl⟩ := List.getLast?_eq_some_iff.1 last
      obtain ⟨frontAlso, rfl⟩ := List.getLast?_eq_some_iff.1 lastAlso
      simp only [List.getLast?_append, List.getLast?_singleton, Option.some_or,
        List.dropLast_concat, Option.ite_none_right_eq_some, Option.some.injEq,
        Prod.mk.injEq] at listed listedAlso
      obtain ⟨rfl, rfl, -⟩ := listed
      obtain ⟨rfl, rfl, -⟩ := listedAlso
      exact congrArg (fun name => frontAlso ++ [name]) same

end Tree

namespace Disk

/-- The names of the directories in a place, in code point order. -/
def directoriesIn (disk : Disk) (place : Place) : List String :=
  ((disk.tree.children place).filterMap fun (name, item) =>
    if item.isDirectory then some name else none).mergeSort fun left right => left ≤ right

theorem mem_directoriesIn_iff {disk : Disk} {place : Place} {name : String} :
    name ∈ disk.directoriesIn place ↔ disk.tree.item? (place ++ [name]) = some .directory := by
  rw [directoriesIn, List.mem_mergeSort, List.mem_filterMap, ← Tree.mem_children_iff]
  constructor
  · rintro ⟨⟨other, item⟩, member, listed⟩
    cases item with
    | directory =>
      cases listed
      exact member
    | file octets mode => cases listed
  · intro member
    exact ⟨_, member, rfl⟩

/-- Directories are listed in code point order, each once. -/
theorem pairwise_directoriesIn (disk : Disk) (place : Place) :
    (disk.directoriesIn place).Pairwise (· < ·) := by
  have sorted : (disk.directoriesIn place).Pairwise fun left right =>
      decide (left ≤ right) = true := by
    apply List.pairwise_mergeSort
    · intro first second third below above
      exact decide_eq_true (Std.le_trans (of_decide_eq_true below) (of_decide_eq_true above))
    · intro left right
      simpa using Std.le_total (a := left) (b := right)
  have distinct : (disk.directoriesIn place).Pairwise (· ≠ ·) := by
    refine (List.mergeSort_perm _ _).nodup_iff.2 (List.Pairwise.filterMap _ ?_
      (disk.tree.pairwise_children place))
    rintro ⟨name, item⟩ ⟨other, _⟩ different found listed another listedAlso same
    simp only [Option.ite_none_right_eq_some, Option.some.injEq] at listed listedAlso
    exact different (by rw [listed.2, listedAlso.2, same])
  exact (sorted.and distinct).imp fun ⟨below, apart⟩ =>
    Std.lt_of_le_of_ne (of_decide_eq_true below) apart

/-- The disk that holds nothing but directories. -/
def withDirectories (places : List Place) : Disk :=
  ⟨places.foldl (fun tree place => tree.put place .directory) .bare, [], 0o022, .quiet⟩

end Disk

namespace DiskAction

theorem exec_directoryNames {disk : Disk} {path : Path} {place : Place}
    (led : disk.placeOf path = .ok place) :
    exec (directoryNames path) disk = (.ok (disk.directoriesIn place), disk) := by
  simp only [directoryNames, exec_bind, exec_get, led]
  rfl

end DiskAction

end Scaffold
