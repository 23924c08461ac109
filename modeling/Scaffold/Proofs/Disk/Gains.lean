import Scaffold.Proofs.Disk.Rooted

/-!
# Files that a disk gains

A disk gains files if each of them is new, and nothing but directories is new besides. Gaining some
files and then others is gaining all of them.
-/

set_option autoImplicit false

namespace Scaffold

namespace Disk

/-- A disk before and after it gained files, each given by its place and its octets. -/
structure Gains (old new : Disk) (files : List (Place × ByteArray)) : Prop where
  start : new.start = old.start
  umask : new.umask = old.umask
  absent : ∀ file ∈ files, old.tree.item? file.1 = none
  present : ∀ file ∈ files, new.tree.item? file.1 = some (.file file.2 old.newMode)
  others : ∀ place, (∀ file ∈ files, file.1 ≠ place) →
    new.tree.item? place = old.tree.item? place ∨
      old.tree.item? place = none ∧ new.tree.item? place = some .directory
  distinct : (files.map Prod.fst).Nodup
  sound : old.Sound → new.Sound

theorem newMode_eq {old new : Disk} (umask : new.umask = old.umask) : new.newMode = old.newMode := by
  rw [newMode, newMode, umask]

theorem GrowsTo.gains {old grown : Disk} (grows : old.GrowsTo grown) : old.Gains grown [] where
  start := by rw [grows.rest]
  umask := by rw [grows.rest]
  absent := nofun
  present := nofun
  others place _ := grows.tree place
  distinct := List.nodup_nil
  sound := grows.sound

theorem Gains.refl (disk : Disk) : disk.Gains disk [] :=
  (GrowsTo.refl disk).gains

namespace Gains

variable {old middle new : Disk} {files later : List (Place × ByteArray)}

theorem inject (gains : old.Gains new files) (injection : Injection) :
    old.Gains { new with injection } files :=
  { gains with sound := fun sound => ⟨(gains.sound sound).tree, (gains.sound sound).start⟩ }

theorem kept (gains : old.Gains new files) {place : Place} {item : Item}
    (found : old.tree.item? place = some item) : new.tree.item? place = some item := by
  have other : ∀ file ∈ files, file.1 ≠ place := by
    rintro file member rfl
    rw [gains.absent file member] at found
    cases found
  rcases gains.others place other with same | ⟨absent, -⟩
  · rw [same, found]
  · rw [absent] at found
    cases found

theorem absent_before (gains : old.Gains new files) {place : Place}
    (absent : new.tree.item? place = none) : old.tree.item? place = none := by
  cases found : old.tree.item? place with
  | none => rfl
  | some item =>
    rw [gains.kept found] at absent
    cases absent

theorem placeOf_eq (gains : old.Gains new files) {path : Path} {place : Place}
    (led : old.placeOf path = .ok place) : new.placeOf path = .ok place := by
  rw [placeOf, gains.start]
  exact walk_mono (fun _ directory => gains.kept directory) led

theorem look_eq (gains : old.Gains new files) {path : Path} {item : Item}
    (found : old.look path = .ok (some item)) : new.look path = .ok (some item) := by
  obtain ⟨named, place, led, present⟩ := look_eq_ok_some_iff.1 found
  exact look_eq_ok_some_iff.2 ⟨named, place, gains.placeOf_eq led, gains.kept present⟩

theorem ne_of_gains (before : old.Gains middle files) (after : middle.Gains new later)
    {first second : Place × ByteArray} (member : first ∈ files) (memberLater : second ∈ later) :
    first.1 ≠ second.1 := by
  intro same
  have there := before.present first member
  rw [same, after.absent second memberLater] at there
  cases there

theorem append (before : old.Gains middle files) (after : middle.Gains new later) :
    old.Gains new (files ++ later) where
  start := after.start.trans before.start
  umask := after.umask.trans before.umask
  absent file member := by
    rcases List.mem_append.1 member with member | member
    · exact before.absent file member
    · exact before.absent_before (after.absent file member)
  present file member := by
    rcases List.mem_append.1 member with member | member
    · exact after.kept (before.present file member)
    · rw [after.present file member, newMode_eq before.umask]
  others place other := by
    have otherBefore : ∀ file ∈ files, file.1 ≠ place :=
      fun file member => other file (List.mem_append_left later member)
    have otherAfter : ∀ file ∈ later, file.1 ≠ place :=
      fun file member => other file (List.mem_append_right files member)
    rcases after.others place otherAfter with same | ⟨absent, directory⟩
    · rw [same]
      exact before.others place otherBefore
    · exact .inr ⟨before.absent_before absent, directory⟩
  distinct := by
    rw [List.map_append, List.nodup_append]
    refine ⟨before.distinct, after.distinct, ?_⟩
    intro place member other memberLater
    obtain ⟨first, firstMember, rfl⟩ := List.mem_map.1 member
    obtain ⟨second, secondMember, rfl⟩ := List.mem_map.1 memberLater
    exact before.ne_of_gains after firstMember secondMember
  sound := after.sound ∘ before.sound

theorem isRoot (gains : old.Gains new files) {root : Path} {base : Place}
    (rooted : old.IsRoot root base) : new.IsRoot root base :=
  rooted.mono gains.start fun _ directory => gains.kept directory

end Gains

theorem gains_put {disk : Disk} {path : Path} {place : Place} (octets : ByteArray)
    (injection : Injection) (led : disk.placeOf path = .ok place)
    (absent : disk.tree.item? place = none) :
    disk.Gains { disk with tree := disk.tree.put place (.file octets disk.newMode), injection }
      [(place, octets)] := by
  have named := Tree.ne_root_of_item? absent
  have notDirectory : disk.tree.item? place ≠ some .directory := by simp [absent]
  refine ⟨rfl, rfl, by simpa using absent, ?_, ?_, by simp, ?_⟩
  · simp [Tree.item?_put _ _ _ _ named]
  · intro other different
    have apart : other ≠ place := by simpa [eq_comm] using different
    exact .inl (by rw [Tree.item?_put _ _ _ _ named, if_neg apart])
  · intro sound
    exact ⟨sound.tree.put named (placeOf_parent sound led) (.inr notDirectory),
      Tree.directory_put notDirectory sound.start _⟩

/-- A file written whole where nothing was below a root is gained, and if it is not written no file
is. -/
theorem gains_writeWhole {disk : Disk} {root : Path} {base : Place} {names : List String}
    (sound : disk.Sound) (rooted : disk.IsRoot root base) (plain : ".." ∉ names)
    (absent : disk.look ⟨root.anchor, root.parts ++ names⟩ = .ok none) (content : String) :
    (∃ fault new,
      exec (DiskAction.writeWhole ⟨root.anchor, root.parts ++ names⟩ content) disk =
        (.error fault, new) ∧ disk.Gains new [] ∧
      (fault = .nullCharacter → Path.hasNull ⟨root.anchor, root.parts ++ names⟩ = true)) ∨
    ∃ new,
      exec (DiskAction.writeWhole ⟨root.anchor, root.parts ++ names⟩ content) disk =
        (.ok (), new) ∧ disk.Gains new [(base ++ names, Text.encode content)] ∧
      new.look ⟨root.anchor, root.parts ++ names⟩ =
        .ok (some (.file (Text.encode content) disk.newMode)) := by
  have wrote := DiskAction.wrote_writeWhole sound ⟨root.anchor, root.parts ++ names⟩ content
  generalize exec (DiskAction.writeWhole ⟨root.anchor, root.parts ++ names⟩ content) disk = ran
    at wrote ⊢
  cases wrote with
  | failed grows _ unnameable => exact .inl ⟨_, _, rfl, grows.gains.inject _, unnameable⟩
  | @written grown injection place grows _ named led notDirectory =>
    have new := rooted.item?_eq_none sound grows plain absent named led notDirectory
    obtain rfl := (grows.gains.isRoot rooted).placeOf_eq plain led
    have put := gains_put (Text.encode content) injection led new
    have gained := grows.gains.append put
    rw [new]
    exact .inr ⟨_, rfl, gained, look_eq_ok_some_iff.2
      ⟨named, _, put.placeOf_eq led, gained.present _ (List.mem_singleton_self _)⟩⟩

end Disk

end Scaffold
