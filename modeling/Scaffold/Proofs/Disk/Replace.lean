import Scaffold.Proofs.Disk.Write

/-!
# Files replaced without a fault

On a disk with no faults to come, and with a name left for the temporary file, a file that is there
is replaced as a whole and nothing else on the disk changes. The disk is then ready for the next
replacement.
-/

set_option autoImplicit false

namespace Scaffold

/-- Whether a file can be replaced on a disk: it is there with its octets and permissions, no step
is made to fail, and a temporary file can be made beside it. -/
structure Replaceable (disk : Disk) (path : Path) (octets : ByteArray) (mode : Nat) : Prop where
  sound : disk.Sound
  quiet : disk.injection = .quiet
  found : disk.look path = .ok (some (.file octets mode))
  temporary : ∃ directory name, DiskAction.HasTemporary disk path directory name

namespace Disk

theorem look_parent_of_file {disk : Disk} (sound : disk.Sound) {path : Path} {octets : ByteArray}
    {mode : Nat} (found : disk.look path = .ok (some (.file octets mode))) :
    disk.look path.parent = .ok (some .directory) := by
  obtain ⟨anchor, parts⟩ := path
  obtain ⟨named, place, placed, present⟩ := look_eq_ok_some_iff.1 found
  cases parts using List.reverseRecOn with
  | nil =>
    have started : disk.tree.item? place = some .directory := by
      obtain rfl : (if Path.isAbsolute ⟨anchor, []⟩ then [] else disk.start) = place := by
        simpa [placeOf, walk] using placed
      cases Path.isAbsolute ⟨anchor, []⟩ with
      | true => rfl
      | false => exact sound.start
    rw [started] at present
    cases present
  | append_singleton above last =>
    have parent_eq : Path.parent ⟨anchor, above ++ [last]⟩ = ⟨anchor, above⟩ := by
      simp [Path.parent]
    have namedParent : Path.hasNull ⟨anchor, above⟩ = false := by
      simp only [Path.hasNull, List.any_append, Bool.or_eq_false_iff] at named ⊢
      exact named.1
    obtain ⟨directory, led, leads⟩ := exists_walk_of_append placed
    obtain ⟨there, -⟩ := walk_cons_eq_ok_iff.1 leads
    rw [parent_eq]
    exact look_eq_ok_some_iff.2 ⟨namedParent, directory, led, there⟩

theorem look_put {disk : Disk} {path : Path} {place : Place} (named : path.hasNull = false)
    (placed : disk.placeOf path = .ok place)
    (notDirectory : disk.tree.item? place ≠ some .directory) (item : Item)
    (injection : Injection) :
    look { disk with tree := disk.tree.put place item, injection } path = .ok (some item) := by
  have root : place ≠ [] := by
    rintro rfl
    exact notDirectory rfl
  refine look_eq_ok_some_iff.2 ⟨named, place, walk_mono (fun other directory => ?_) placed, ?_⟩
  · exact Tree.directory_put notDirectory directory item
  · rw [Tree.item?_put _ _ _ _ root, if_pos rfl]

end Disk

namespace DiskAction

theorem exec_makeDirectories_of_directory {disk : Disk} {path : Path}
    (there : disk.look path = .ok (some .directory)) :
    exec (makeDirectories path) disk = (.ok (), disk) := by
  obtain ⟨named, place, placed, present⟩ := Disk.look_eq_ok_some_iff.1 there
  have other : DiskFault.fileExists ≠ .noEntry := by decide
  simp [makeDirectories, named, makeAll, makeOne, placed, present, other, unlessThere,
    exec_isDirectory, there, Except.map, Item.isDirectory]

/-- A file that is there is rewritten at its place, or everything on the disk stays as it was. -/
theorem wroteBeside_writeWhole {disk : Disk} (sound : disk.Sound) {path : Path}
    {octets : ByteArray} {mode : Nat} (found : disk.look path = .ok (some (.file octets mode)))
    (content : String) :
    WroteBeside disk path (Text.encode content) (exec (writeWhole path content) disk) := by
  have named := (Disk.look_eq_ok_some_iff.1 found).1
  have parent := Disk.look_parent_of_file sound found
  rw [exec_writeWhole, exec_makeDirectories_of_directory parent]
  simp only [named, Bool.false_eq_true, if_false]
  exact wroteBeside_writeBeside _ sound named parent

theorem freeName?_congr {old new : Tree} (directory : Place) (name : String)
    (same : ∀ place, (new.item? place).isNone = (old.item? place).isNone)
    (number attempts : Nat) :
    freeName? new directory name number attempts = freeName? old directory name number attempts := by
  induction attempts generalizing number with
  | zero => rfl
  | succ attempts ih => rw [freeName?, freeName?, same, ih]

end DiskAction

/-- A file that is replaced keeps its permissions. -/
theorem DiskAction.Wrote.look_eq {disk newDisk : Disk} {path : Path} {old octets : ByteArray}
    {mode : Nat} (wrote : Wrote disk path octets (.ok (), newDisk))
    (found : disk.look path = .ok (some (.file old mode))) :
    newDisk.look path = .ok (some (.file octets mode)) := by
  cases wrote with
  | written grows follows named placed notDirectory =>
    obtain ⟨-, other, otherPlaced, present⟩ := Disk.look_eq_ok_some_iff.1 (grows.look_eq found)
    rw [placed, Except.ok.injEq] at otherPlaced
    subst otherPlaced
    rw [Disk.look_put named placed notDirectory, present]
    rfl

theorem Replaceable.exec_writeWhole {disk : Disk} {path : Path} {octets : ByteArray} {mode : Nat}
    (replaceable : Replaceable disk path octets mode) (content : String) :
    ∃ place, disk.placeOf path = .ok place ∧
      exec (DiskAction.writeWhole path content) disk =
        (.ok (), { disk with tree := disk.tree.put place (.file (Text.encode content) mode) }) ∧
      Replaceable { disk with tree := disk.tree.put place (.file (Text.encode content) mode) } path
        (Text.encode content) mode := by
  obtain ⟨sound, quiet, found, directory, name, temporary⟩ := replaceable
  obtain ⟨named, place, placed, present⟩ := Disk.look_eq_ok_some_iff.1 found
  have parent := Disk.look_parent_of_file sound found
  have root : place ≠ [] := by
    rintro rfl
    cases present
  have notDirectory : disk.tree.item? place ≠ some .directory := by simp [present]
  obtain ⟨absent, -⟩ := DiskAction.freeName?_eq_some temporary.free
  have different : place ≠ directory ++ [name] := by
    rintro rfl
    rw [present] at absent
    cases absent
  have occupied (other : Place) :
      ((disk.tree.put place (.file (Text.encode content) mode)).item? other).isNone =
        (disk.tree.item? other).isNone := by
    rw [Tree.item?_put _ _ _ _ root]
    by_cases same : other = place
    · rw [if_pos same, same, present]
      rfl
    · rw [if_neg same]
  refine ⟨place, placed, ?_, ?_⟩
  · have still : DiskAction.afterRename (DiskAction.afterWrite disk.injection) = disk.injection := by
      rw [quiet]
      rfl
    have writes : disk.injection.writes 0 = none := by rw [quiet]; rfl
    have renames : disk.injection.renames 0 = none := by rw [quiet]; rfl
    rw [DiskAction.exec_writeWhole, DiskAction.exec_makeDirectories_of_directory parent]
    simp only [named, Bool.false_eq_true, if_false, DiskAction.writeBeside, exec_bind,
      DiskAction.exec_modeFor, found, Except.mapError, Except.map,
      DiskAction.exec_makeTemporary_of_hasTemporary temporary,
      DiskAction.exec_replaceWith _ _ absent placed (.inr different), writes, renames,
      if_neg notDirectory, still, DiskAction.modeAt]
  · refine ⟨⟨sound.tree.put root (Disk.placeOf_parent sound placed) (.inr notDirectory),
      Tree.directory_put notDirectory sound.start _⟩, quiet,
      Disk.look_put named placed notDirectory _ _, directory, name, ?_, ?_, temporary.short⟩
    · exact Disk.walk_mono (fun _ there => Tree.directory_put notDirectory there _)
        temporary.parent
    · rw [← temporary.free]
      exact DiskAction.freeName?_congr directory path.name occupied 0 DiskAction.nameAttempts

/-- The disk with one file on it, in the directory where relative paths start. -/
def Disk.withFile (name : String) (octets : ByteArray) (mode : Nat) : Disk :=
  ⟨Tree.bare.put [name] (.file octets mode), [], 0o022, .quiet⟩

theorem replaceable_withFile {name : String} (plain : name ≠ "..")
    (named : Path.hasNull ⟨.relative, [name]⟩ = false) (short : Disk.isLongName name = false)
    (shortTemporary : Disk.isLongName (DiskAction.temporaryName name 0) = false)
    (octets : ByteArray) (mode : Nat) :
    Replaceable (Disk.withFile name octets mode) ⟨.relative, [name]⟩ octets mode := by
  have root : [name] ≠ [] := List.cons_ne_nil _ _
  have nothing (place : Place) (other : place ≠ []) : Tree.bare.item? place = none := by
    rw [Tree.item?, if_neg other]
    rfl
  have noDirectory : Tree.bare.item? [name] ≠ some .directory := by
    rw [nothing _ root]
    simp
  have placed : (Disk.withFile name octets mode).placeOf ⟨.relative, [name]⟩ = .ok [name] :=
    Disk.walk_cons_eq_ok_iff.2 ⟨rfl, .inr ⟨plain, short, rfl⟩⟩
  have free : DiskAction.freeName? (Disk.withFile name octets mode).tree [] name 0
      DiskAction.nameAttempts = some (DiskAction.temporaryName name 0) := by
    have other : [DiskAction.temporaryName name 0] ≠ [name] := fun same =>
      DiskAction.temporaryName_ne name 0 (List.singleton_inj.1 same)
    have absent : ((Disk.withFile name octets mode).tree.item?
        ([] ++ [DiskAction.temporaryName name 0])).isNone = true := by
      rw [List.nil_append, Disk.withFile, Tree.item?_put _ _ _ _ root, if_neg other,
        nothing _ (List.cons_ne_nil _ _)]
      rfl
    rw [DiskAction.nameAttempts, DiskAction.freeName?, if_pos absent]
  refine ⟨⟨Tree.sound_bare.put root rfl (.inr noDirectory), rfl⟩, rfl, ?_, [],
    DiskAction.temporaryName name 0, rfl, free, shortTemporary⟩
  refine Disk.look_eq_ok_some_iff.2 ⟨named, [name], placed, ?_⟩
  rw [Disk.withFile, Tree.item?_put _ _ _ _ root, if_pos rfl]

end Scaffold
