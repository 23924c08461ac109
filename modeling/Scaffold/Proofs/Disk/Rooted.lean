import Scaffold.Proofs.Disk.Write

/-!
# Files below a root

Names that never go up lead to the place that they name. What such a path leads to after directories
were made is new if nothing was seen there before: a file at that place would have been seen.
-/

set_option autoImplicit false

namespace Scaffold

namespace Disk

theorem walk_plain {tree : Tree} {start place : Place} {names : List String}
    (plain : ".." ∉ names) (walked : walk tree start names = .ok place) :
    place = start ++ names ∧ ∀ name ∈ names, isLongName name = false := by
  induction names generalizing start with
  | nil =>
    obtain rfl : start = place := by simpa [walk] using walked
    exact ⟨(List.append_nil start).symm, by simp⟩
  | cons name names ih =>
    rw [List.mem_cons, not_or] at plain
    obtain ⟨-, ⟨up, -⟩ | ⟨-, short, rest⟩⟩ := walk_cons_eq_ok_iff.1 walked
    · exact absurd up.symm plain.1
    · obtain ⟨rfl, shortRest⟩ := ih plain.2 rest
      exact ⟨by simp, List.forall_mem_cons.2 ⟨short, shortRest⟩⟩

theorem walk_of_item? {tree : Tree} (sound : tree.Sound) {start : Place} {names : List String}
    {item : Item} (plain : ".." ∉ names) (short : ∀ name ∈ names, isLongName name = false)
    (present : tree.item? (start ++ names) = some item) :
    walk tree start names = .ok (start ++ names) := by
  induction names generalizing start with
  | nil => simp [walk]
  | cons name names ih =>
    rw [List.mem_cons, not_or] at plain
    obtain ⟨shortName, shortRest⟩ := List.forall_mem_cons.1 short
    have directory := sound.above present (List.cons_ne_nil name names)
    rw [← List.singleton_append, ← List.append_assoc] at present ⊢
    refine walk_cons_eq_ok_iff.2 ⟨directory, .inr ⟨Ne.symm plain.1, shortName, ?_⟩⟩
    exact ih plain.2 shortRest present

theorem placeOf_append {disk : Disk} {anchor : Anchor} {above : List String} {directory : Place}
    (led : disk.placeOf ⟨anchor, above⟩ = .ok directory) (below : List String) :
    disk.placeOf ⟨anchor, above ++ below⟩ = walk disk.tree directory below :=
  walk_append led below

/-- Whether paths that go on from a root without going up lead below a place. The root need not be
there as a whole, but nothing of it that is missing goes up. -/
def IsRoot (disk : Disk) (root : Path) (base : Place) : Prop :=
  ∃ above below directory, root.parts = above ++ below ∧ ".." ∉ below ∧
    disk.placeOf ⟨root.anchor, above⟩ = .ok directory ∧
    disk.tree.item? directory = some .directory ∧ base = directory ++ below

variable {disk : Disk} {root : Path} {base : Place}

theorem isRoot_of_directory (led : disk.placeOf root = .ok base)
    (there : disk.tree.item? base = some .directory) : disk.IsRoot root base :=
  ⟨root.parts, [], base, (List.append_nil _).symm, List.not_mem_nil, led, there,
    (List.append_nil _).symm⟩

theorem IsRoot.mono {newDisk : Disk} (rooted : disk.IsRoot root base)
    (start : newDisk.start = disk.start)
    (kept : ∀ place, disk.tree.item? place = some .directory →
      newDisk.tree.item? place = some .directory) : newDisk.IsRoot root base := by
  obtain ⟨above, below, directory, parts_eq, plain, led, there, base_eq⟩ := rooted
  refine ⟨above, below, directory, parts_eq, plain, ?_, kept directory there, base_eq⟩
  rw [placeOf, start]
  exact walk_mono kept led

theorem IsRoot.placeOf_eq {names : List String} {place : Place} (rooted : disk.IsRoot root base)
    (plain : ".." ∉ names) (led : disk.placeOf ⟨root.anchor, root.parts ++ names⟩ = .ok place) :
    place = base ++ names := by
  obtain ⟨above, below, directory, parts_eq, plainBelow, ledAbove, -, rfl⟩ := rooted
  rw [parts_eq, List.append_assoc, placeOf_append ledAbove] at led
  rw [(walk_plain (by simp [plainBelow, plain]) led).1, List.append_assoc]

/-- A path below a root that leads somewhere once directories were made led there before if something
was there. -/
theorem IsRoot.placeOf_of_item? {newDisk : Disk} {names : List String} {place : Place} {item : Item}
    (rooted : disk.IsRoot root base) (sound : disk.Sound) (start : newDisk.start = disk.start)
    (kept : ∀ place, disk.tree.item? place = some .directory →
      newDisk.tree.item? place = some .directory)
    (plain : ".." ∉ names)
    (led : newDisk.placeOf ⟨root.anchor, root.parts ++ names⟩ = .ok place)
    (present : disk.tree.item? place = some item) :
    disk.placeOf ⟨root.anchor, root.parts ++ names⟩ = .ok place := by
  obtain ⟨above, below, directory, parts_eq, plainBelow, ledAbove, -, -⟩ := rooted
  have plainAll : ".." ∉ below ++ names := by simp [plainBelow, plain]
  have ledNew : newDisk.placeOf ⟨root.anchor, above⟩ = .ok directory := by
    rw [placeOf, start]
    exact walk_mono kept ledAbove
  rw [parts_eq, List.append_assoc, placeOf_append ledNew] at led
  obtain ⟨rfl, short⟩ := walk_plain plainAll led
  rw [parts_eq, List.append_assoc, placeOf_append ledAbove]
  exact walk_of_item? sound.tree plainAll short present

/-- What a path below a root leads to after directories were made is new if nothing was seen there. -/
theorem IsRoot.item?_eq_none {grown : Disk} {names : List String} {place : Place}
    (rooted : disk.IsRoot root base) (sound : disk.Sound) (grows : disk.GrowsTo grown)
    (plain : ".." ∉ names)
    (absent : disk.look ⟨root.anchor, root.parts ++ names⟩ = .ok none)
    (named : Path.hasNull ⟨root.anchor, root.parts ++ names⟩ = false)
    (led : grown.placeOf ⟨root.anchor, root.parts ++ names⟩ = .ok place)
    (notDirectory : grown.tree.item? place ≠ some .directory) : grown.tree.item? place = none := by
  cases present : grown.tree.item? place with
  | none => rfl
  | some item =>
    cases item with
    | directory => exact absurd present notDirectory
    | file octets mode =>
      -- A file is not made by growing, so it was there before and would have been seen.
      have old := grows.tree.file present
      have ledOld := rooted.placeOf_of_item? sound (by rw [grows.rest])
        (fun _ directory => grows.tree.kept directory) plain led old
      rw [look_of_placeOf named ledOld, old] at absent
      cases absent

end Disk

end Scaffold
