import Scaffold.Proofs.Disk.Hindered
import Scaffold.Proofs.Disk.Looking
import Scaffold.Proofs.Disk.Replace
import Scaffold.Proofs.Disk.Rooted

/-!
# Writes that are whole or not at all

Whichever steps of a write fail, the file holds all its octets afterwards or all files are as they
were. What is new besides are directories on the way to the file. One file more is left over only if
the temporary file cannot be removed either. A path that goes up may lead to a directory that was
made on its way, so that what is there is only settled for paths that do not go up.
-/

set_option autoImplicit false

namespace Scaffold

/-! ## What is at a path that does not go up -/

namespace Disk

variable {disk grown newDisk : Disk} {path : Path} {place : Place}

def base (disk : Disk) (path : Path) : Place :=
  if path.isAbsolute then [] else disk.start

/-- The place that a path names if it does not go up. -/
def target (disk : Disk) (path : Path) : Place :=
  disk.base path ++ path.parts

theorem base_directory (sound : disk.Sound) (path : Path) :
    disk.tree.item? (disk.base path) = some .directory := by
  unfold base
  cases path.isAbsolute with
  | true => rfl
  | false => exact sound.start

theorem look_eq_some_iff_target (sound : disk.Sound) (plain : ".." ∉ path.parts) {item : Item} :
    disk.look path = .ok (some item) ↔
      path.hasNull = false ∧ (∀ name ∈ path.parts, isLongName name = false) ∧
        disk.tree.item? (disk.target path) = some item := by
  rw [look_eq_ok_some_iff]
  constructor
  · intro ⟨named, place, led, present⟩
    obtain ⟨rfl, short⟩ := walk_plain plain led
    exact ⟨named, short, present⟩
  · intro ⟨named, short, present⟩
    exact ⟨named, _, walk_of_item? sound.tree plain short present, present⟩

theorem MeetsLongName.exists_long {tree : Tree} {start : Place} {names : List String}
    (meets : MeetsLongName tree start names) : ∃ name ∈ names, isLongName name = true := by
  induction meets with
  | here _ _ long => exact ⟨_, List.mem_cons_self, long⟩
  | up _ _ ih =>
    obtain ⟨name, member, long⟩ := ih
    exact ⟨name, List.mem_cons_of_mem _ member, long⟩
  | down _ _ _ _ ih =>
    obtain ⟨name, member, long⟩ := ih
    exact ⟨name, List.mem_cons_of_mem _ member, long⟩

theorem look_eq_target (sound : disk.Sound) (plain : ".." ∉ path.parts)
    (named : path.hasNull = false) (short : ∀ name ∈ path.parts, isLongName name = false) :
    disk.look path = .ok (disk.tree.item? (disk.target path)) := by
  cases looked : disk.look path with
  | error fault =>
    obtain ⟨-, -, meets⟩ := look_eq_error_iff.1 looked
    obtain ⟨name, member, long⟩ := meets.exists_long
    rw [short name member] at long
    cases long
  | ok seen =>
    cases seen with
    | some item => rw [((look_eq_some_iff_target sound plain).1 looked).2.2]
    | none =>
      cases present : disk.tree.item? (disk.target path) with
      | none => rfl
      | some item =>
        rw [(look_eq_some_iff_target sound plain).2 ⟨named, short, present⟩] at looked
        cases looked

theorem GrowsTo.target_eq (grows : disk.GrowsTo grown) (path : Path) :
    grown.target path = disk.target path := by
  rw [grows.rest]
  rfl

/-- The directories that are made for a file are above it. -/
theorem item?_target_of_madeAlong (sound : disk.Sound) (plain : ".." ∉ path.parts)
    (grows : disk.GrowsTo grown) (made : disk.MadeAlong path.parent grown) :
    grown.tree.item? (disk.target path) = disk.tree.item? (disk.target path) := by
  rcases grows.tree (disk.target path) with same | ⟨absent, present⟩
  · exact same
  · -- A beginning of the path above is shorter, unless the path names no more than where it starts.
    obtain ⟨above, within, led⟩ := made _ absent (by simp [present])
    have plainAbove : ".." ∉ above := fun up => plain (List.dropLast_subset _ (within.subset up))
    obtain ⟨target_eq, -⟩ := walk_plain plainAbove led
    rw [← grows.target_eq] at target_eq
    have parts_eq : path.parts = above := List.append_cancel_left target_eq
    have shorter : above.length ≤ path.parts.length - 1 := by
      simpa [Path.parent] using within.length_le
    have nothing : path.parts = [] := by
      rw [parts_eq] at shorter ⊢
      exact List.eq_nil_of_length_eq_zero (by omega)
    rw [target, nothing, List.append_nil, base_directory sound path] at absent
    cases absent

theorem target_ne_temporary {directory : Place} (plain : ".." ∉ path.parts)
    (led : disk.placeOf path.parent = .ok directory) (number : Nat) :
    disk.target path ≠ directory ++ [DiskAction.temporaryName path.name number] := by
  have plainAbove : ".." ∉ path.parent.parts := fun up => plain (List.dropLast_subset _ up)
  obtain ⟨rfl, -⟩ := walk_plain plainAbove led
  intro same
  have parts_eq : path.parts =
      path.parts.dropLast ++ [DiskAction.temporaryName path.name number] := by
    rw [target, List.append_assoc] at same
    exact List.append_cancel_left same
  have name_eq : path.name = DiskAction.temporaryName path.name number := by
    have last := congrArg (fun parts : List String => parts.getLastD "") parts_eq
    simpa [Path.name] using last
  exact DiskAction.temporaryName_ne path.name number name_eq.symm

end Disk

/-! ## What a write leaves -/

open DiskAction (modeAt)

namespace Disk

/-- Whether a disk holds at a place what another one held there, or a directory on the way to a file
where that one held nothing. -/
def Stays (disk : Disk) (path : Path) (newDisk : Disk) (place : Place) : Prop :=
  newDisk.tree.item? place = disk.tree.item? place ∨
    disk.tree.item? place = none ∧ newDisk.tree.item? place = some .directory ∧
      ∃ above, above <+: path.parent.parts ∧ newDisk.placeOf ⟨path.anchor, above⟩ = .ok place

/-- Whether a file was written as a whole at a place, with the permissions of the file that was
there or else with those of a new file, and nothing else was changed. -/
structure IsWhole (disk : Disk) (path : Path) (octets : ByteArray) (newDisk : Disk)
    (place : Place) : Prop where
  leads : newDisk.placeOf path = .ok place
  notDirectory : disk.tree.item? place ≠ some .directory
  holds : newDisk.look path = .ok (some (.file octets (modeAt disk (disk.tree.item? place))))
  replaces : ∀ item, disk.look path = .ok (some item) → disk.tree.item? place = some item
  replaces_of_plain : ".." ∉ path.parts → disk.look path = .ok (disk.tree.item? place)
  others : ∀ other, other ≠ place → disk.Stays path newDisk other

/-- Whether nothing was changed, apart from a temporary file that could not be removed. -/
structure IsUntouched (hindrance : Hindrance) (disk : Disk) (path : Path) (newDisk : Disk) :
    Prop where
  kept : ∀ item, disk.look path = .ok (some item) → newDisk.look path = .ok (some item)
  kept_of_plain : ".." ∉ path.parts → ∀ item, newDisk.look path = .ok (some item) →
    disk.look path = .ok (some item)
  others : ∃ leftOver, ∀ place, disk.Stays path newDisk place ∨
    hindrance.fault .discard ≠ none ∧ place = leftOver ∧ disk.tree.item? place = none

variable {disk grown newDisk : Disk} {path : Path} {place : Place}

theorem stays_of_madeAlong (grows : disk.GrowsTo grown) (made : disk.MadeAlong path.parent grown)
    (start : newDisk.start = grown.start)
    (directories : ∀ other, grown.tree.item? other = some .directory →
      newDisk.tree.item? other = some .directory)
    (same : newDisk.tree.item? place = grown.tree.item? place) : disk.Stays path newDisk place := by
  rcases grows.tree place with kept | ⟨absent, present⟩
  · exact .inl (same.trans kept)
  · obtain ⟨above, within, led⟩ := made place absent (by simp [present])
    refine .inr ⟨absent, same.trans present, above, within, ?_⟩
    rw [placeOf, start]
    exact walk_mono directories led

theorem isUntouched_of_kept {hindrance : Hindrance} (sound : disk.Sound)
    (grows : disk.GrowsTo grown) (made : disk.MadeAlong path.parent grown)
    (soundNew : newDisk.Sound) (start : newDisk.start = grown.start)
    (kept : ∀ place item, grown.tree.item? place = some item →
      newDisk.tree.item? place = some item)
    (target : ".." ∉ path.parts →
      newDisk.tree.item? (grown.target path) = grown.tree.item? (grown.target path))
    (others : ∃ leftOver, ∀ place, newDisk.tree.item? place = grown.tree.item? place ∨
      hindrance.fault .discard ≠ none ∧ place = leftOver ∧ grown.tree.item? place = none) :
    IsUntouched hindrance disk path newDisk where
  kept item looked := by
    obtain ⟨named, place, led, present⟩ := look_eq_ok_some_iff.1 (grows.look_eq looked)
    refine look_eq_ok_some_iff.2 ⟨named, place, ?_, kept place item present⟩
    rw [placeOf, start]
    exact walk_mono (fun other => kept other .directory) led
  kept_of_plain plain item looked := by
    obtain ⟨named, short, present⟩ := (look_eq_some_iff_target soundNew plain).1 looked
    have target_eq : newDisk.target path = grown.target path := by
      rw [Disk.target, Disk.target, base, base, start]
    refine (look_eq_some_iff_target sound plain).2 ⟨named, short, ?_⟩
    rw [← item?_target_of_madeAlong sound plain grows made, ← grows.target_eq, ← target plain,
      ← target_eq, present]
  others := by
    obtain ⟨leftOver, others⟩ := others
    refine ⟨leftOver, fun place => ?_⟩
    rcases others place with same | ⟨stuck, there, absent⟩
    · exact .inl (stays_of_madeAlong grows made start (fun other => kept other .directory) same)
    · refine .inr ⟨stuck, there, ?_⟩
      cases present : disk.tree.item? place with
      | none => rfl
      | some item =>
        rw [grows.tree.kept present] at absent
        cases absent

end Disk

namespace DiskAction

variable {disk newDisk : Disk} {path : Path} {octets : ByteArray} {hindrance : Hindrance}

theorem WroteHindered.isUntouched {fault : WriteFault} (sound : disk.Sound)
    (wrote : WroteHindered hindrance disk path octets (.error fault, newDisk)) :
    disk.IsUntouched hindrance path newDisk := by
  cases wrote with
  | @failed grown injection _ grows made =>
    have soundNew := grows.sound sound
    exact Disk.isUntouched_of_kept sound grows made ⟨soundNew.tree, soundNew.start⟩ rfl
      (fun _ _ present => present) (fun _ => rfl) ⟨[], fun _ => .inl rfl⟩
  | @leftOver grown injection _ directory number item grows made stuck led there absent =>
    have named := Tree.ne_root_of_item? absent
    have notDirectory : grown.tree.item? (directory ++ [temporaryName path.name number]) ≠
        some .directory := by simp [absent]
    have soundGrown := grows.sound sound
    have elsewhere {place : Place}
        (other : place ≠ directory ++ [temporaryName path.name number]) :
        (grown.tree.put (directory ++ [temporaryName path.name number]) item).item? place =
          grown.tree.item? place := by
      rw [Tree.item?_put _ _ _ _ named, if_neg other]
    refine Disk.isUntouched_of_kept sound grows made ⟨?_, ?_⟩ rfl ?_ ?_
      ⟨directory ++ [temporaryName path.name number], fun place => ?_⟩
    · exact soundGrown.tree.put named (by rwa [List.dropLast_concat]) (.inr notDirectory)
    · exact Tree.directory_put notDirectory soundGrown.start item
    · intro place present found
      refine (elsewhere ?_).trans found
      rintro rfl
      rw [absent] at found
      cases found
    · intro plain
      exact elsewhere (Disk.target_ne_temporary plain led number)
    · by_cases other : place = directory ++ [temporaryName path.name number]
      · exact .inr ⟨stuck, other, other ▸ absent⟩
      · exact .inl (elsewhere other)

theorem WroteHindered.isWhole (sound : disk.Sound)
    (wrote : WroteHindered hindrance disk path octets (.ok (), newDisk)) :
    ∃ place, disk.IsWhole path octets newDisk place := by
  cases wrote with
  | @written grown injection place grows made named led notDirectory =>
    have root : place ≠ [] := by
      rintro rfl
      exact notDirectory rfl
    have item_eq : grown.tree.item? place = disk.tree.item? place := by
      rcases grows.tree place with same | ⟨-, present⟩
      · exact same
      · exact absurd present notDirectory
    have mode_eq : modeAt grown (grown.tree.item? place) = modeAt disk (disk.tree.item? place) := by
      rw [item_eq, grows.rest]
      rfl
    have directories (other : Place) (there : grown.tree.item? other = some .directory) :=
      Tree.directory_put notDirectory there
        (.file octets (modeAt grown (grown.tree.item? place)))
    refine ⟨place, ?_, item_eq ▸ notDirectory, ?_, ?_, ?_, ?_⟩
    · exact Disk.walk_mono directories led
    · rw [← mode_eq]
      exact Disk.look_put named led notDirectory _ injection
    · intro item looked
      obtain ⟨-, other, ledOther, present⟩ := Disk.look_eq_ok_some_iff.1 (grows.look_eq looked)
      cases led.symm.trans ledOther
      rw [← item_eq, present]
    · intro plain
      obtain ⟨place_eq, short⟩ := Disk.walk_plain plain led
      have target_eq : place = disk.target path := by
        rw [← grows.target_eq]
        exact place_eq
      rw [target_eq]
      exact Disk.look_eq_target sound plain named short
    · intro other elsewhere
      refine Disk.stays_of_madeAlong grows made rfl directories ?_
      rw [Tree.item?_put _ _ _ _ root, if_neg elsewhere]

end DiskAction

/-- A write is whole or not at all, whichever of its steps fail: if it succeeds the file at its path
has exactly its octets, and if it fails nothing was changed. The write that runs is the one that
nothing hinders. -/
theorem write_is_whole_or_not_at_all {disk : Disk} (sound : disk.Sound) (path : Path)
    (content : String) :
    (∀ hindrance,
      match exec (DiskAction.writeHindered hindrance path content) disk with
      | (.ok (), newDisk) => ∃ place, disk.IsWhole path (Text.encode content) newDisk place
      | (.error _, newDisk) => disk.IsUntouched hindrance path newDisk) ∧
    exec (DiskAction.writeHindered .none path content) disk =
      exec (DiskAction.writeWhole path content) disk := by
  refine ⟨fun hindrance => ?_, DiskAction.exec_writeHindered_none path content disk⟩
  have wrote := DiskAction.wroteHindered_writeHindered hindrance sound path content
  cases ran : exec (DiskAction.writeHindered hindrance path content) disk with
  | mk result newDisk =>
    rw [ran] at wrote
    cases result with
    | ok => exact wrote.isWhole sound
    | error fault => exact wrote.isUntouched sound

theorem write_is_whole_or_not_at_all_withFile :
    let disk := Disk.withFile "A.php" (Text.encode "old") 0o640
    let path : Path := ⟨.relative, ["A.php"]⟩
    let denied := Hindrance.atSteps [.permit] ⟨some 1, "Operation not permitted"⟩
    disk.Sound ∧
      (∃ fault newDisk,
        exec (DiskAction.writeHindered denied path "new") disk = (.error fault, newDisk) ∧
          disk.IsUntouched denied path newDisk) ∧
      ∃ newDisk place,
        exec (DiskAction.writeWhole path "new") disk = (.ok (), newDisk) ∧
          disk.IsWhole path (Text.encode "new") newDisk place := by
  intro disk path denied
  have sound : disk.Sound :=
    (replaceable_withFile (by decide) (by decide +kernel) (by decide +kernel) (by decide +kernel)
      (Text.encode "old") 0o640).sound
  have fails : (exec (DiskAction.writeHindered denied path "new") disk).1.isOk = false := by
    decide +kernel
  have succeeds : (exec (DiskAction.writeWhole path "new") disk).1.isOk = true := by
    decide +kernel
  obtain ⟨ends, unhindered⟩ := write_is_whole_or_not_at_all sound path "new"
  have endsDenied := ends denied
  have endsFreely := ends .none
  rw [unhindered] at endsFreely
  refine ⟨sound, ?_, ?_⟩
  · cases ran : exec (DiskAction.writeHindered denied path "new") disk with
    | mk result newDisk =>
      rw [ran] at fails endsDenied
      cases result with
      | ok => cases fails
      | error fault => exact ⟨fault, newDisk, rfl, endsDenied⟩
  · obtain ⟨_, newDisk, ran⟩ := exists_exec_eq_ok succeeds
    rw [ran] at endsFreely
    obtain ⟨place, isWhole⟩ := endsFreely
    exact ⟨newDisk, place, ran, isWhole⟩

/-- A path that goes up leads to a directory that was made on its way, and a temporary file that
cannot be removed is left over. -/
theorem write_leaves_a_trace :
    let disk : Disk := ⟨.bare, [], 0o022, .quiet⟩
    let path : Path := ⟨.relative, ["z", "..", "z"]⟩
    let stuck := Hindrance.atSteps [.rename, .discard] ⟨some 5, "Input/output error"⟩
    let failed := exec (DiskAction.writeWhole path "new") disk
    let left := exec (DiskAction.writeHindered stuck ⟨.relative, ["A.php"]⟩ "new") disk
    (disk.look path = .ok none ∧ failed.1.isOk = false ∧
        failed.2.look path = .ok (some .directory)) ∧
      left.1.isOk = false ∧ disk.tree.item? [".A.php.00000000.tmp"] = none ∧
        left.2.tree.item? [".A.php.00000000.tmp"] =
          some (.file (Text.encode "new") 0o644) := by
  decide +kernel

end Scaffold
