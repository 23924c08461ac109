import Scaffold.Disk.Write
import Scaffold.Proofs.Disk.Exec
import Scaffold.Proofs.Disk.Tree

/-!
# Directories made on a disk

Making directories takes nothing away from a disk and puts nothing but directories on it, whether it
succeeds or not. If it succeeds, the path that it was asked for is that of a directory.
-/

set_option autoImplicit false

namespace Scaffold

namespace Disk

/-- Whether everything on a disk is in a directory and relative paths start at one. -/
structure Sound (disk : Disk) : Prop where
  tree : disk.tree.Sound
  start : disk.tree.item? disk.start = some .directory

/-- Whether a disk is another one on which directories were made. -/
structure GrowsTo (disk grown : Disk) : Prop where
  tree : disk.tree.Grows grown.tree
  rest : grown = { disk with tree := grown.tree }
  sound : disk.Sound → grown.Sound

theorem GrowsTo.refl (disk : Disk) : disk.GrowsTo disk :=
  ⟨.refl _, rfl, id⟩

theorem GrowsTo.trans {first second third : Disk} (below : first.GrowsTo second)
    (above : second.GrowsTo third) : first.GrowsTo third := by
  refine ⟨below.tree.trans above.tree, ?_, above.sound ∘ below.sound⟩
  rw [above.rest, below.rest]

theorem GrowsTo.placeOf_eq {disk grown : Disk} (grows : disk.GrowsTo grown) {path : Path}
    {place : Place} (found : disk.placeOf path = .ok place) : grown.placeOf path = .ok place := by
  rw [grows.rest]
  exact walk_mono (fun _ item => grows.tree.kept item) found

theorem placeOf_parent {disk : Disk} (sound : disk.Sound) {path : Path} {place : Place}
    (found : disk.placeOf path = .ok place) :
    disk.tree.item? place.dropLast = some .directory := by
  refine walk_parent sound.tree ?_ found
  cases path.isAbsolute with
  | true => rfl
  | false => exact sound.tree _ _ sound.start

theorem growsTo_put {disk : Disk} {path : Path} {place : Place}
    (found : disk.placeOf path = .ok place) (absent : disk.tree.item? place = none) :
    disk.GrowsTo { disk with tree := disk.tree.put place .directory } := by
  refine ⟨Tree.grows_put absent, rfl, fun sound => ⟨?_, ?_⟩⟩
  · exact sound.tree.put (Tree.ne_root_of_item? absent) (placeOf_parent sound found) (.inl rfl)
  · exact (Tree.grows_put absent).kept sound.start

theorem look_eq_ok_some_iff {disk : Disk} {path : Path} {item : Item} :
    disk.look path = .ok (some item) ↔
      path.hasNull = false ∧ ∃ place, disk.placeOf path = .ok place ∧
        disk.tree.item? place = some item := by
  unfold look status
  cases path.hasNull with
  | true => simp
  | false =>
    cases disk.placeOf path with
    | error fault => cases absent : fault.meansAbsent <;> simp [bind, Except.bind, absent]
    | ok place =>
      cases found : disk.tree.item? place with
      | none => simp [bind, Except.bind, found, DiskFault.meansAbsent]
      | some present => simp [bind, Except.bind, found]

theorem status_of_look {disk : Disk} {path : Path} {item : Item}
    (found : disk.look path = .ok (some item)) : disk.status path = .ok item := by
  obtain ⟨-, place, led, present⟩ := look_eq_ok_some_iff.1 found
  simp [status, led, present, bind, Except.bind]

theorem look_of_placeOf {disk : Disk} {path : Path} {place : Place}
    (named : path.hasNull = false) (found : disk.placeOf path = .ok place) :
    disk.look path = .ok (disk.tree.item? place) := by
  unfold look status
  cases present : disk.tree.item? place <;>
    simp [named, found, present, bind, Except.bind, DiskFault.meansAbsent]

theorem GrowsTo.look_eq {disk grown : Disk} (grows : disk.GrowsTo grown) {path : Path}
    {item : Item} (found : disk.look path = .ok (some item)) :
    grown.look path = .ok (some item) := by
  obtain ⟨named, place, placed, present⟩ := look_eq_ok_some_iff.1 found
  exact look_eq_ok_some_iff.2 ⟨named, place, grows.placeOf_eq placed, grows.tree.kept present⟩

end Disk

/-! ## Looking -/

theorem Item.any_isFile_iff {seen : Option Item} :
    seen.any Item.isFile = true ↔ ∃ octets mode, seen = some (.file octets mode) := by
  cases seen with
  | none => simp
  | some item => cases item <;> simp [Item.isFile]

namespace DiskAction

theorem exec_look (path : Path) (disk : Disk) :
    exec (look path) disk = (disk.look path, disk) := by
  simp only [look, exec_bind, exec_get]
  cases disk.look path <;> rfl

theorem exec_isFile (path : Path) (disk : Disk) :
    exec (isFile path) disk = ((disk.look path).map (Option.any Item.isFile), disk) := by
  unfold isFile
  rw [exec_map, exec_look]
  cases disk.look path <;> rfl

theorem exec_isDirectory (path : Path) (disk : Disk) :
    exec (isDirectory path) disk = ((disk.look path).map (Option.any Item.isDirectory), disk) := by
  unfold isDirectory
  rw [exec_map, exec_look]
  cases disk.look path <;> rfl

theorem exec_fileExists (path : Path) (disk : Disk) :
    exec (fileExists path) disk = ((disk.look path).map Option.isSome, disk) := by
  unfold fileExists
  rw [exec_map, exec_look]
  cases disk.look path <;> rfl

/-! ## Making directories -/

/-- Whether steps to make a directory only make directories, and make the one at a path if they
succeed. -/
def MakesDirectory (path : Path) (action : DiskAction DiskFault Unit) : Prop :=
  ∀ disk, disk.GrowsTo (exec action disk).2 ∧
    ((exec action disk).1 = .ok () → path.hasNull = false →
      (exec action disk).2.look path = .ok (some .directory))

theorem makesDirectory_makeOne (path : Path) : MakesDirectory path (makeOne path) := by
  intro disk
  unfold makeOne
  rw [exec_bind, exec_get]
  cases found : disk.placeOf path with
  | error fault => simp [found, Disk.GrowsTo.refl]
  | ok place =>
    cases present : disk.tree.item? place with
    | some item => simp [found, present, Disk.GrowsTo.refl]
    | none =>
      simp only [found, present, exec_set]
      have grows := Disk.growsTo_put found present
      refine ⟨grows, fun _ named => Disk.look_eq_ok_some_iff.2
        ⟨named, place, grows.placeOf_eq found, ?_⟩⟩
      rw [Tree.item?_put _ _ _ _ (Tree.ne_root_of_item? present), if_pos rfl]

theorem makesDirectory_unlessThere (path : Path) (fault : DiskFault) :
    MakesDirectory path (unlessThere path fault) := by
  intro disk
  unfold unlessThere
  rw [exec_bind, exec_isDirectory]
  cases seen : disk.look path with
  | error other => simp [seen, Except.map, Disk.GrowsTo.refl]
  | ok item =>
    cases item with
    | none => simp [Except.map, Disk.GrowsTo.refl]
    | some item => cases item <;> simp [seen, Except.map, Item.isDirectory, Disk.GrowsTo.refl]

theorem MakesDirectory.tryCatch {path : Path} {action : DiskAction DiskFault Unit}
    {handler : DiskFault → DiskAction DiskFault Unit} (makes : MakesDirectory path action)
    (handles : ∀ fault, MakesDirectory path (handler fault)) :
    MakesDirectory path (tryCatch action handler) := by
  intro disk
  have first := makes disk
  rw [exec_tryCatch]
  cases ran : exec action disk with
  | mk result grown =>
    rw [ran] at first
    cases result with
    | ok => exact first
    | error fault =>
      -- The handler goes on from what the failed steps left.
      have second := handles fault grown
      exact ⟨first.1.trans second.1, second.2⟩

theorem makesDirectory_makeAll (path : Path) (above : Nat) :
    MakesDirectory path (makeAll path above) := by
  induction above generalizing path with
  | zero =>
    intro disk
    simp [makeAll, Disk.GrowsTo.refl]
  | succ above ih =>
    refine (makesDirectory_makeOne path).tryCatch fun fault => ?_
    by_cases missing : (decide (fault = .noEntry) && !path.parts.isEmpty) = true
    · rw [if_pos missing]
      intro disk
      have parent := ih path.parent disk
      rw [exec_bind]
      cases ran : exec (makeAll path.parent above) disk with
      | mk result grown =>
        rw [ran] at parent
        cases result with
        | error fault => exact ⟨parent.1, by simp⟩
        | ok =>
          have again := ((makesDirectory_makeOne path).tryCatch
            (makesDirectory_unlessThere path)) grown
          exact ⟨parent.1.trans again.1, again.2⟩
    · rw [if_neg missing]
      exact makesDirectory_unlessThere path fault

theorem exec_makeDirectories (path : Path) (disk : Disk) :
    disk.GrowsTo (exec (makeDirectories path) disk).2 ∧
      ((exec (makeDirectories path) disk).1 = .ok () →
        (exec (makeDirectories path) disk).2.look path = .ok (some .directory)) := by
  unfold makeDirectories
  cases named : path.hasNull with
  | true => simp [Disk.GrowsTo.refl]
  | false =>
    have makes := makesDirectory_makeAll path (path.parts.length + 1) disk
    simp only [Bool.false_eq_true, if_false, exec_adapt]
    cases ran : exec (makeAll path (path.parts.length + 1)) disk with
    | mk result grown =>
      rw [ran] at makes
      cases result with
      | error fault => exact ⟨makes.1, by simp⟩
      | ok => exact ⟨makes.1, fun _ => makes.2 rfl named⟩

end DiskAction

end Scaffold
