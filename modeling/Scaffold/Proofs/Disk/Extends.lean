import Scaffold.Proofs.Disk.Gains

/-!
# Disks that are extended

A disk is extended if all its directories and files stay. Some files may be rewritten, which keeps
their permissions, and new files may be made. Which files these are is said by two properties of
places, so that extending a disk several times is extending it once.
-/

set_option autoImplicit false

namespace Scaffold

namespace Disk

/-- A disk before and after it was extended: files are made with octets at places as `made` says, and
those there already have other octets only where `rewritten` says. -/
structure Extends (old new : Disk) (made : Place → ByteArray → Prop) (rewritten : Place → Prop) :
    Prop where
  start : new.start = old.start
  umask : new.umask = old.umask
  sound : old.Sound → new.Sound
  directory : ∀ place, old.tree.item? place = some .directory →
    new.tree.item? place = some .directory
  file : ∀ place octets mode, old.tree.item? place = some (.file octets mode) →
    ∃ after, new.tree.item? place = some (.file after mode) ∧ (after = octets ∨ rewritten place)
  new : ∀ place octets mode, old.tree.item? place = none →
    new.tree.item? place = some (.file octets mode) → mode = old.newMode ∧ made place octets

theorem Gains.extends {old new : Disk} {files : List (Place × ByteArray)}
    (gains : old.Gains new files) :
    old.Extends new (fun place octets => (place, octets) ∈ files) (fun _ => False) where
  start := gains.start
  umask := gains.umask
  sound := gains.sound
  directory place present := gains.kept present
  file place octets mode present := ⟨octets, gains.kept present, .inl rfl⟩
  new place octets mode absent present := by
    by_cases gained : ∃ file ∈ files, file.1 = place
    · obtain ⟨file, member, rfl⟩ := gained
      rw [gains.present file member, Option.some.injEq, Item.file.injEq] at present
      obtain ⟨rfl, rfl⟩ := present
      exact ⟨rfl, member⟩
    · rcases gains.others place (fun file member same => gained ⟨file, member, same⟩) with
        same | ⟨-, directory⟩
      · rw [same, absent] at present
        cases present
      · rw [directory] at present
        cases present

namespace Extends

variable {old middle new : Disk} {made later : Place → ByteArray → Prop}
  {rewritten again : Place → Prop}

theorem refl (disk : Disk) : disk.Extends disk (fun _ _ => False) (fun _ => False) where
  start := rfl
  umask := rfl
  sound := id
  directory _ := id
  file _ octets _ present := ⟨octets, present, .inl rfl⟩
  new place octets mode absent present := by
    rw [absent] at present
    cases present

theorem inject (extended : old.Extends new made rewritten) (injection : Injection) :
    old.Extends { new with injection } made rewritten :=
  { extended with
    sound := fun sound => ⟨(extended.sound sound).tree, (extended.sound sound).start⟩ }

theorem imp (extended : old.Extends new made rewritten)
    (makes : ∀ place octets, made place octets → later place octets)
    (rewrites : ∀ place, rewritten place → again place) : old.Extends new later again :=
  { extended with
    file := fun place octets mode present => by
      obtain ⟨after, found, same⟩ := extended.file place octets mode present
      exact ⟨after, found, same.imp_right (rewrites place)⟩
    new := fun place octets mode absent present => by
      obtain ⟨mode_eq, isMade⟩ := extended.new place octets mode absent present
      exact ⟨mode_eq, makes place octets isMade⟩ }

/-- A file that is made may be rewritten later. -/
theorem trans (before : old.Extends middle made rewritten)
    (after : middle.Extends new later again) :
    old.Extends new
      (fun place octets => later place octets ∨
        ∃ first, made place first ∧ (octets = first ∨ again place))
      (fun place => rewritten place ∨ again place) where
  start := after.start.trans before.start
  umask := after.umask.trans before.umask
  sound := after.sound ∘ before.sound
  directory place present := after.directory place (before.directory place present)
  file place octets mode present := by
    obtain ⟨first, foundFirst, sameFirst⟩ := before.file place octets mode present
    obtain ⟨last, found, same⟩ := after.file place first mode foundFirst
    refine ⟨last, found, ?_⟩
    rcases same with rfl | rewrittenAgain
    · exact sameFirst.imp_right .inl
    · exact .inr (.inr rewrittenAgain)
  new place octets mode absent present := by
    cases between : middle.tree.item? place with
    | none =>
      obtain ⟨mode_eq, isMade⟩ := after.new place octets mode between present
      exact ⟨mode_eq.trans (newMode_eq before.umask), .inl isMade⟩
    | some item =>
      cases item with
      | directory =>
        rw [after.directory place between] at present
        cases present
      | file first firstMode =>
        obtain ⟨mode_eq, isMade⟩ := before.new place first firstMode absent between
        obtain ⟨last, found, same⟩ := after.file place first firstMode between
        rw [found, Option.some.injEq, Item.file.injEq] at present
        obtain ⟨rfl, rfl⟩ := present
        exact ⟨mode_eq, .inr ⟨first, isMade, same⟩⟩

/-- What changes no file may come before. -/
theorem of_unchanged (before : old.Extends middle (fun _ _ => False) (fun _ => False))
    (after : middle.Extends new made rewritten) : old.Extends new made rewritten := by
  refine (before.trans after).imp ?_ ?_
  · rintro place octets (isMade | ⟨_, none, -⟩)
    · exact isMade
    · cases none
  · rintro place (none | isRewritten)
    · cases none
    · exact isRewritten

theorem isRoot (extended : old.Extends new made rewritten) {root : Path} {base : Place}
    (rooted : old.IsRoot root base) : new.IsRoot root base :=
  rooted.mono extended.start extended.directory

theorem placeOf_eq (extended : old.Extends new made rewritten) {path : Path} {place : Place}
    (led : old.placeOf path = .ok place) : new.placeOf path = .ok place := by
  rw [placeOf, extended.start]
  exact walk_mono extended.directory led

theorem look_directory (extended : old.Extends new made rewritten) {path : Path}
    (found : old.look path = .ok (some .directory)) : new.look path = .ok (some .directory) := by
  obtain ⟨named, place, led, present⟩ := look_eq_ok_some_iff.1 found
  exact look_eq_ok_some_iff.2
    ⟨named, place, extended.placeOf_eq led, extended.directory place present⟩

/-- A file is still seen, and with other octets only if it was rewritten. -/
theorem exists_look_file (extended : old.Extends new made rewritten) {path : Path}
    {octets : ByteArray} {mode : Nat} (found : old.look path = .ok (some (.file octets mode))) :
    ∃ place after, old.placeOf path = .ok place ∧
      new.look path = .ok (some (.file after mode)) ∧ (after = octets ∨ rewritten place) := by
  obtain ⟨named, place, led, present⟩ := look_eq_ok_some_iff.1 found
  obtain ⟨after, presentAfter, same⟩ := extended.file place octets mode present
  exact ⟨place, after, led,
    look_eq_ok_some_iff.2 ⟨named, place, extended.placeOf_eq led, presentAfter⟩, same⟩

end Extends

end Disk

/-! ## Writing over a file -/

namespace DiskAction.Wrote

variable {disk new : Disk} {path : Path} {octets : ByteArray}

theorem extends_of_failed {fault : WriteFault} (wrote : Wrote disk path octets (.error fault, new)) :
    disk.Extends new (fun _ _ => False) (fun _ => False) := by
  cases wrote with
  | failed grows => exact (grows.gains.extends.imp nofun fun _ => id).inject _

/-- A write over a file rewrites it at its place and nothing else. -/
theorem extends_of_file {old : ByteArray} {mode : Nat} (wrote : Wrote disk path octets (.ok (), new))
    (found : disk.look path = .ok (some (.file old mode))) :
    disk.Extends new (fun _ _ => False) (fun place => disk.placeOf path = .ok place) := by
  obtain ⟨-, place, led, present⟩ := Disk.look_eq_ok_some_iff.1 found
  cases wrote with
  | @written grown injection target grows follows named ledGrown notDirectory =>
    obtain rfl : place = target := by
      rw [grows.placeOf_eq led, Except.ok.injEq] at ledGrown
      exact ledGrown
    have root : place ≠ [] := by
      rintro rfl
      cases present
    have item?_eq := fun other => Tree.item?_put place other
      (.file octets (modeAt grown (grown.tree.item? place))) grown.tree root
    have there : grown.tree.item? place = some (.file old mode) := grows.tree.kept present
    exact
      { start := by rw [grows.rest]
        umask := by rw [grows.rest]
        sound := fun sound =>
          ⟨(grows.sound sound).tree.put root
              (Disk.placeOf_parent (grows.sound sound) (grows.placeOf_eq led)) (.inr notDirectory),
            Tree.directory_put notDirectory (grows.sound sound).start _⟩
        directory := fun other directory =>
          Tree.directory_put notDirectory (grows.tree.kept directory) _
        file := fun other held otherMode was => by
          by_cases same : other = place
          · subst same
            rw [present, Option.some.injEq, Item.file.injEq] at was
            refine ⟨octets, ?_, .inr led⟩
            rw [item?_eq, if_pos rfl, there, modeAt, was.2]
          · refine ⟨held, ?_, .inl rfl⟩
            rw [item?_eq, if_neg same, grows.tree.kept was]
        new := fun other held otherMode absent now => by
          have different : other ≠ place := by
            rintro rfl
            rw [present] at absent
            cases absent
          rw [item?_eq, if_neg different] at now
          rw [grows.tree.file now] at absent
          cases absent }

end DiskAction.Wrote

/-! ## Files that are written

Which files are on a disk after steps that write some. No root is needed to say it: a file is named by
a path that leads to it, and directories stay, so that the path goes on leading to it. -/

namespace Disk

/-- A disk before and after files were written with octets at paths as `written` says: every file
that is there afterwards is one of those or was there before as it is. -/
structure WritesOnly (old new : Disk) (written : Path → ByteArray → Prop) : Prop where
  start : new.start = old.start
  sound : old.Sound → new.Sound
  directory : ∀ place, old.tree.item? place = some .directory →
    new.tree.item? place = some .directory
  file : ∀ place octets mode, new.tree.item? place = some (.file octets mode) →
    old.tree.item? place = some (.file octets mode) ∨
      ∃ path, written path octets ∧ new.placeOf path = .ok place

namespace WritesOnly

variable {old middle new : Disk} {written later : Path → ByteArray → Prop}

theorem refl (disk : Disk) (written : Path → ByteArray → Prop) : disk.WritesOnly disk written where
  start := rfl
  sound := id
  directory _ := id
  file _ _ _ := .inl

theorem imp (writes : old.WritesOnly new written)
    (also : ∀ path octets, written path octets → later path octets) : old.WritesOnly new later :=
  { writes with
    file := fun place octets mode present => by
      rcases writes.file place octets mode present with same | ⟨path, isWritten, led⟩
      · exact .inl same
      · exact .inr ⟨path, also path octets isWritten, led⟩ }

theorem placeOf_eq (writes : old.WritesOnly new written) {path : Path} {place : Place}
    (led : old.placeOf path = .ok place) : new.placeOf path = .ok place := by
  rw [placeOf, writes.start]
  exact walk_mono writes.directory led

theorem trans (before : old.WritesOnly middle written) (after : middle.WritesOnly new written) :
    old.WritesOnly new written where
  start := after.start.trans before.start
  sound := after.sound ∘ before.sound
  directory place present := after.directory place (before.directory place present)
  file place octets mode present := by
    rcases after.file place octets mode present with between | isWritten
    · rcases before.file place octets mode between with same | ⟨path, isWritten, led⟩
      · exact .inl same
      · exact .inr ⟨path, isWritten, after.placeOf_eq led⟩
    · exact .inr isWritten

end WritesOnly

/-- A disk that was extended without a new file has only those files written that were rewritten. -/
theorem Extends.writesOnly {old new : Disk} {rewritten : Place → Prop}
    {written : Path → ByteArray → Prop}
    (extended : old.Extends new (fun _ _ => False) rewritten)
    (named : ∀ place, rewritten place →
      ∃ path, (∀ octets, written path octets) ∧ old.placeOf path = .ok place) :
    old.WritesOnly new written where
  start := extended.start
  sound := extended.sound
  directory := extended.directory
  file place octets mode present := by
    cases before : old.tree.item? place with
    | none => exact (extended.new place octets mode before present).2.elim
    | some item =>
      cases item with
      | directory =>
        rw [extended.directory place before] at present
        cases present
      | file held heldMode =>
        obtain ⟨after, found, same⟩ := extended.file place held heldMode before
        rw [found, Option.some.injEq, Item.file.injEq] at present
        obtain ⟨rfl, rfl⟩ := present
        rcases same with rfl | isRewritten
        · exact .inl rfl
        · obtain ⟨path, isWritten, led⟩ := named place isRewritten
          exact .inr ⟨path, isWritten after, extended.placeOf_eq led⟩

end Disk

/-- A whole write writes at most the file at its path. -/
theorem DiskAction.Wrote.writesOnly {disk : Disk} {path : Path} {octets : ByteArray}
    {ended : Except WriteFault Unit × Disk} (wrote : Wrote disk path octets ended) :
    disk.WritesOnly ended.2 fun target held => target = path ∧ held = octets := by
  cases wrote with
  | @failed grown injection fault grows follows unnameable =>
    exact
      { start := by rw [grows.rest]
        sound := fun sound => ⟨(grows.sound sound).tree, (grows.sound sound).start⟩
        directory := fun place => grows.tree.kept
        file := fun place held mode present => .inl (grows.tree.file present) }
  | @written grown injection place grows follows named led notDirectory =>
    have root : place ≠ [] := by
      rintro rfl
      exact notDirectory rfl
    exact
      { start := by rw [grows.rest]
        sound := fun sound =>
          ⟨(grows.sound sound).tree.put root (Disk.placeOf_parent (grows.sound sound) led)
              (.inr notDirectory),
            Tree.directory_put notDirectory (grows.sound sound).start _⟩
        directory := fun other present =>
          Tree.directory_put notDirectory (grows.tree.kept present) _
        file := fun other held mode present => by
          rw [Tree.item?_put _ _ _ _ root] at present
          by_cases same : other = place
          · subst same
            rw [if_pos rfl, Option.some.injEq, Item.file.injEq] at present
            refine .inr ⟨path, ⟨rfl, present.1.symm⟩, ?_⟩
            exact Disk.walk_mono
              (fun _ directory => Tree.directory_put notDirectory directory _) led
          · rw [if_neg same] at present
            exact .inl (grows.tree.file present) }

end Scaffold
