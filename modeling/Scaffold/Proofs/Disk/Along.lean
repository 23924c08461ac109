import Scaffold.Proofs.Disk.Hindrance

/-!
# Directories made along a path

Whatever hinders the making of a directory, all directories that are made are where a beginning of
its path leads. Each way to put the steps together keeps this, with the directories above a path
made before the one at it.
-/

set_option autoImplicit false

namespace Scaffold

namespace Disk

variable {disk grown newDisk : Disk} {path : Path} {place : Place}

/-- Whether what is new on a disk is where a beginning of a path leads. -/
def MadeAlong (disk : Disk) (path : Path) (grown : Disk) : Prop :=
  ∀ place, disk.tree.item? place = none → grown.tree.item? place ≠ none →
    ∃ above, above <+: path.parts ∧ grown.placeOf ⟨path.anchor, above⟩ = .ok place

theorem MadeAlong.refl (disk : Disk) (path : Path) : disk.MadeAlong path disk :=
  fun _ absent present => absurd absent present

theorem MadeAlong.trans {first second third : Disk} (made : first.MadeAlong path second)
    (later : second.MadeAlong path third) (grows : second.GrowsTo third) :
    first.MadeAlong path third := by
  intro place absent present
  cases between : second.tree.item? place with
  | none => exact later place between present
  | some item =>
    obtain ⟨above, within, led⟩ := made place absent (by simp [between])
    exact ⟨above, within, grows.placeOf_eq led⟩

theorem MadeAlong.of_parent (made : disk.MadeAlong path.parent grown) :
    disk.MadeAlong path grown := by
  intro place absent present
  obtain ⟨above, within, led⟩ := made place absent present
  exact ⟨above, within.trans (List.dropLast_prefix _), led⟩

end Disk

namespace DiskAction

variable {path : Path} {action next : DiskAction DiskFault Unit}

/-- Whether steps make directories along a path, and the one at it if they succeed. -/
structure MakesAlong (path : Path) (action : DiskAction DiskFault Unit) : Prop where
  makes : MakesDirectory path action
  along : ∀ disk : Disk, disk.MadeAlong path (exec action disk).2

namespace MakesAlong

theorem throw (path : Path) (fault : DiskFault) :
    MakesAlong path (MonadExcept.throw fault) where
  makes disk := ⟨.refl disk, nofun⟩
  along disk := .refl disk path

theorem unlessHindered (makes : MakesAlong path action) (fault : Option DiskFault) :
    MakesAlong path (DiskAction.unlessHindered fault action) := by
  cases fault with
  | none => exact makes
  | some fault => exact .throw path fault

theorem tryCatch {handler : DiskFault → DiskAction DiskFault Unit} (makes : MakesAlong path action)
    (handles : ∀ fault, MakesAlong path (handler fault)) :
    MakesAlong path (MonadExcept.tryCatch action handler) where
  makes := makes.makes.tryCatch fun fault => (handles fault).makes
  along disk := by
    have first := makes.along disk
    rw [exec_tryCatch]
    cases ran : exec action disk with
    | mk result grown =>
      rw [ran] at first
      cases result with
      | ok => exact first
      | error fault =>
        exact first.trans ((handles fault).along grown) ((handles fault).makes grown).1

theorem after_parent (above : MakesAlong path.parent action) (makes : MakesAlong path next) :
    MakesAlong path (do action; next) where
  makes disk := by
    have grows := (above.makes disk).1
    rw [exec_bind]
    cases ran : exec action disk with
    | mk result grown =>
      rw [ran] at grows
      cases result with
      | error fault => exact ⟨grows, nofun⟩
      | ok => exact ⟨grows.trans (makes.makes grown).1, (makes.makes grown).2⟩
  along disk := by
    have made := (above.along disk).of_parent
    rw [exec_bind]
    cases ran : exec action disk with
    | mk result grown =>
      rw [ran] at made
      cases result with
      | error fault => exact made
      | ok => exact made.trans (makes.along grown) (makes.makes grown).1

end MakesAlong

theorem makesAlong_makeOne (path : Path) : MakesAlong path (makeOne path) where
  makes := makesDirectory_makeOne path
  along disk := by
    have grows := (makesDirectory_makeOne path disk).1
    unfold makeOne at grows ⊢
    rw [exec_bind, exec_get] at grows ⊢
    cases found : disk.placeOf path with
    | error fault => simp [found, Disk.MadeAlong.refl]
    | ok place =>
      cases present : disk.tree.item? place with
      | some item => simp [found, present, Disk.MadeAlong.refl]
      | none =>
        simp only [found, present, exec_set] at grows ⊢
        intro other absent there
        rw [Tree.item?_put _ _ _ _ (Tree.ne_root_of_item? present)] at there
        by_cases same : other = place
        · exact ⟨path.parts, List.prefix_refl _, same ▸ grows.placeOf_eq found⟩
        · rw [if_neg same] at there
          exact absurd absent there

theorem makesAlong_unlessThere (path : Path) (fault : DiskFault) :
    MakesAlong path (unlessThere path fault) where
  makes := makesDirectory_unlessThere path fault
  along disk := by
    unfold unlessThere
    rw [exec_bind, exec_isDirectory]
    cases seen : disk.look path with
    | error other => exact .refl disk path
    | ok item =>
      simp only [Except.map]
      cases item.any Item.isDirectory <;> exact .refl disk path

theorem makesAlong_unlessThereHindered (hindrance : Hindrance) (path : Path) (fault : DiskFault) :
    MakesAlong path (unlessThereHindered hindrance path fault) := by
  unfold unlessThereHindered
  by_cases missing : fault = .noEntry
  · rw [if_pos missing]
    exact .throw path fault
  · rw [if_neg missing]
    exact (makesAlong_unlessThere path fault).unlessHindered _

theorem makesAlong_makeAllHindered (hindrance : Hindrance) (path : Path) (above : Nat) :
    MakesAlong path (makeAllHindered hindrance path above) := by
  induction above generalizing path with
  | zero => exact .throw path .noEntry
  | succ above ih =>
    apply ((makesAlong_makeOne path).unlessHindered _).tryCatch
    intro fault
    by_cases missing : (decide (fault = .noEntry) && !path.parts.isEmpty) = true
    · rw [if_pos missing]
      apply (ih path.parent).after_parent
      apply ((makesAlong_makeOne path).unlessHindered _).tryCatch
      exact makesAlong_unlessThereHindered hindrance path
    · rw [if_neg missing]
      exact makesAlong_unlessThereHindered hindrance path fault

theorem exec_makeDirectoriesHindered (hindrance : Hindrance) (path : Path) (disk : Disk) :
    disk.GrowsTo (exec (makeDirectoriesHindered hindrance path) disk).2 ∧
      disk.MadeAlong path (exec (makeDirectoriesHindered hindrance path) disk).2 ∧
      ((exec (makeDirectoriesHindered hindrance path) disk).1 = .ok () →
        (exec (makeDirectoriesHindered hindrance path) disk).2.look path =
          .ok (some .directory)) := by
  unfold makeDirectoriesHindered
  cases named : path.hasNull with
  | true => exact ⟨.refl disk, .refl disk path, nofun⟩
  | false =>
    have makes := makesAlong_makeAllHindered hindrance path (path.parts.length + 1)
    have grows := makes.makes disk
    have made := makes.along disk
    simp only [Bool.false_eq_true, if_false, exec_adapt]
    cases ran : exec (makeAllHindered hindrance path (path.parts.length + 1)) disk with
    | mk result grown =>
      rw [ran] at grows made
      cases result with
      | error fault => exact ⟨grows.1, made, nofun⟩
      | ok => exact ⟨grows.1, made, fun _ => grows.2 rfl named⟩

end DiskAction

end Scaffold
