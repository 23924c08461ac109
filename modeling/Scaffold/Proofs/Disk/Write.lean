import Scaffold.Proofs.Disk.Growth

/-!
# Files written whole

A write leaves the file at its place with all of its octets, or it leaves all files as they were.
Nothing but directories is on the disk besides in either case, since the temporary file takes a name
that was free and is gone afterwards.
-/

set_option autoImplicit false

namespace Scaffold

/-! ## Faults to come -/

/-- Whether the faults to come are those that come after some writes and renames. -/
def Injection.Follows (old new : Injection) : Prop :=
  ∃ writes renames : Nat, new =
    ⟨old.reads, fun step => old.writes (step + writes), fun step => old.renames (step + renames)⟩

theorem Path.hasNull_of_parent {path : Path} (null : path.parent.hasNull = true) :
    path.hasNull = true := by
  unfold Path.hasNull at null ⊢
  obtain ⟨part, member, holds⟩ := List.any_eq_true.1 null
  exact List.any_eq_true.2 ⟨part, List.dropLast_subset _ member, holds⟩

namespace DiskAction

/-! ## Temporary files -/

theorem freeName?_eq_some {tree : Tree} {directory : Place} {name candidate : String}
    {number attempts : Nat}
    (found : freeName? tree directory name number attempts = some candidate) :
    tree.item? (directory ++ [candidate]) = none ∧ ∃ number, candidate = temporaryName name number := by
  induction attempts generalizing number with
  | zero => cases found
  | succ attempts ih =>
    rw [freeName?] at found
    by_cases free : (tree.item? (directory ++ [temporaryName name number])).isNone = true
    · rw [if_pos free, Option.some.injEq] at found
      subst found
      exact ⟨Option.isNone_iff_eq_none.1 free, number, rfl⟩
    · rw [if_neg free] at found
      exact ih found

theorem temporaryName_ne (name : String) (number : Nat) : temporaryName name number ≠ name := by
  intro same
  have length_eq := congrArg String.length same
  simp only [temporaryName, String.length_append] at length_eq
  have dot : ".".length = 1 := rfl
  omega

/-- Whether a temporary file can be made beside a path, in a directory. -/
structure HasTemporary (disk : Disk) (path : Path) (directory : Place) (name : String) : Prop where
  parent : disk.placeOf path.parent = .ok directory
  free : freeName? disk.tree directory path.name 0 nameAttempts = some name
  short : Disk.isLongName name = false

/-- A path does not lead to the temporary file beside it. -/
theorem HasTemporary.apart {disk : Disk} {path : Path} {directory place : Place} {name : String}
    (temporary : HasTemporary disk path directory name)
    (beside : disk.tree.item? place = some .directory ∨
      ∃ above, disk.placeOf path.parent = .ok above ∧ place = above ++ [path.name]) :
    disk.tree.item? place = some .directory ∨ place ≠ directory ++ [name] := by
  rcases beside with present | ⟨above, led, place_eq⟩
  · exact .inl present
  · obtain rfl : directory = above := by
      rw [temporary.parent, Except.ok.injEq] at led
      exact led
    obtain ⟨-, number, name_eq⟩ := freeName?_eq_some temporary.free
    refine .inr fun same => temporaryName_ne path.name number ?_
    rw [place_eq, name_eq] at same
    exact (List.singleton_inj.1 (List.append_cancel_left same)).symm

def withTemporary (disk : Disk) (place : Place) : Disk :=
  { disk with tree := disk.tree.put place (.file .empty 0o600) }

theorem exec_makeTemporary_of_hasTemporary {disk : Disk} {path : Path} {directory : Place}
    {name : String} (temporary : HasTemporary disk path directory name) :
    exec (makeTemporary path) disk =
      (.ok (directory ++ [name]), withTemporary disk (directory ++ [name])) := by
  simp [makeTemporary, ofResult, temporary.parent, temporary.free, temporary.short, withTemporary]

theorem exec_makeTemporary (path : Path) (disk : Disk) :
    (∃ fault, exec (makeTemporary path) disk = (.error (.disk fault), disk)) ∨
      ∃ directory name, HasTemporary disk path directory name := by
  cases parent : disk.placeOf path.parent with
  | error fault => exact .inl ⟨fault, by simp [makeTemporary, ofResult, parent]⟩
  | ok directory =>
    cases free : freeName? disk.tree directory path.name 0 nameAttempts with
    | none => exact .inl ⟨.noTemporaryName, by simp [makeTemporary, ofResult, parent, free]⟩
    | some name =>
      cases long : Disk.isLongName name with
      | true =>
        exact .inl ⟨.nameTooLong, by simp [makeTemporary, ofResult, parent, free, long]⟩
      | false => exact .inr ⟨directory, name, parent, free, long⟩

/-! ## Replacing a file -/

theorem placeOf_of_parent {disk : Disk} {path : Path} {seen : Option Item}
    (parent : disk.look path.parent = .ok (some .directory)) (named : path.hasNull = false)
    (looked : disk.look path = .ok seen) :
    ∃ place, disk.placeOf path = .ok place ∧ disk.tree.item? place = seen ∧
      (disk.Sound → seen = some .directory ∨
        ∃ directory, disk.placeOf path.parent = .ok directory ∧
          place = directory ++ [path.name]) := by
  obtain ⟨anchor, parts⟩ := path
  obtain ⟨-, directory, placed, present⟩ := Disk.look_eq_ok_some_iff.1 parent
  cases parts using List.reverseRecOn with
  | nil =>
    rw [Disk.look_of_placeOf named placed, Except.ok.injEq] at looked
    exact ⟨directory, placed, looked, fun _ => .inl (looked ▸ present)⟩
  | append_singleton above last =>
    have parent_eq : Path.parent ⟨anchor, above ++ [last]⟩ = ⟨anchor, above⟩ := by
      simp [Path.parent]
    have name_eq : Path.name ⟨anchor, above ++ [last]⟩ = last := by
      simp [Path.name]
    rw [parent_eq] at placed ⊢
    have walked : disk.placeOf ⟨anchor, above ++ [last]⟩ =
        Disk.walk disk.tree directory [last] := Disk.walk_append placed [last]
    rw [Disk.walk, Disk.checkDirectory_eq_ok_iff.2 present] at walked
    by_cases up : last = ".."
    · have led : disk.placeOf ⟨anchor, above ++ [last]⟩ = .ok directory.dropLast := by
        simpa [bind, Except.bind, up, Disk.walk] using walked
      rw [Disk.look_of_placeOf named led, Except.ok.injEq] at looked
      exact ⟨_, led, looked, fun sound => .inl (looked ▸ sound.tree _ _ present)⟩
    · cases long : Disk.isLongName last with
      | true =>
        have stopped : disk.placeOf ⟨anchor, above ++ [last]⟩ = .error .nameTooLong := by
          simpa [bind, Except.bind, up, long] using walked
        simp [Disk.look, Disk.status, named, stopped, bind, Except.bind, DiskFault.meansAbsent,
          DiskFault.nameTooLong, DiskFault.noEntry, DiskFault.notDirectory] at looked
      | false =>
        have led : disk.placeOf ⟨anchor, above ++ [last]⟩ = .ok (directory ++ [last]) := by
          simpa [bind, Except.bind, up, long, Disk.walk] using walked
        rw [Disk.look_of_placeOf named led, Except.ok.injEq] at looked
        exact ⟨_, led, looked, fun _ => .inr ⟨directory, placed, by rw [name_eq]⟩⟩

/-- The permissions that a file gets at a place. -/
def modeAt (disk : Disk) : Option Item → Nat
  | some (.file _ mode) => mode
  | some .directory => 0o755
  | none => disk.newMode

theorem exec_modeFor (path : Path) (disk : Disk) :
    exec (modeFor path) disk =
      ((disk.look path).mapError WriteFault.disk |>.map (modeAt disk), disk) := by
  simp only [modeFor, exec_bind, exec_get, ofResult]
  cases disk.look path with
  | error fault => rfl
  | ok seen =>
    cases seen with
    | none => rfl
    | some item => cases item <;> rfl

def afterWrite (injection : Injection) : Injection :=
  { injection with writes := injection.writes.later }

def afterRename (injection : Injection) : Injection :=
  { injection with renames := injection.renames.later }

theorem exec_fill (place : Place) (octets : ByteArray) (mode : Nat) (disk : Disk) :
    exec (fill place octets mode) disk =
      match disk.injection.writes 0 with
      | some fault => (.error (.disk fault), { disk with injection := afterWrite disk.injection })
      | none => (.ok (), { disk with
          tree := disk.tree.put place (.file octets mode)
          injection := afterWrite disk.injection }) := by
  cases writes : disk.injection.writes 0 <;> simp [fill, takeWriteFault, afterWrite, writes]

/-- A temporary file at a place that was free takes the place of another if that is no directory. -/
theorem exec_rename {disk : Disk} {path : Path} {temporary place : Place}
    (absent : disk.tree.item? temporary = none) (found : disk.placeOf path = .ok place)
    (apart : disk.tree.item? place = some .directory ∨ place ≠ temporary) (item : Item)
    (injection : Injection) :
    exec (rename temporary path) { disk with tree := disk.tree.put temporary item, injection } =
      match injection.renames 0 with
      | some fault => (.error (.disk fault), { disk with
          tree := disk.tree.put temporary item
          injection := afterRename injection })
      | none =>
        if disk.tree.item? place = some .directory then
          (.error (.disk (directoryFault path)), { disk with
            tree := disk.tree.put temporary item
            injection := afterRename injection })
        else
          (.ok (), { disk with
            tree := disk.tree.put place item
            injection := afterRename injection }) := by
  have named := Tree.ne_root_of_item? absent
  -- Its place was free, so the temporary file is not on the way to the target and removing it
  -- leaves the tree as it was.
  have led (injection : Injection) :
      Disk.placeOf { disk with tree := disk.tree.put temporary item, injection } path =
        .ok place := by
    refine Disk.walk_mono (fun other item => ?_) found
    rw [Tree.item?_put _ _ _ _ named]
    by_cases same : other = temporary
    · rw [same, absent] at item
      cases item
    · rw [if_neg same, item]
  have target : (disk.tree.put temporary item).item? place = disk.tree.item? place := by
    rw [Tree.item?_put _ _ _ _ named]
    by_cases same : place = temporary
    · rcases apart with present | different
      · rw [same, absent] at present
        cases present
      · exact absurd same different
    · rw [if_neg same]
  have source : (disk.tree.put temporary item).item? temporary = some item := by
    rw [Tree.item?_put _ _ _ _ named, if_pos rfl]
  cases renames : injection.renames 0 with
  | some fault => simp [rename, takeRenameFault, renames, afterRename]
  | none =>
    cases seen : disk.tree.item? place with
    | none =>
      simp [rename, takeRenameFault, ofResult, renames, afterRename, Tree.remove_put absent, led,
        target, source, seen]
    | some present =>
      cases present <;>
        simp [rename, takeRenameFault, ofResult, renames, afterRename, Tree.remove_put absent,
          led, target, source, seen]

theorem exec_discard {disk : Disk} {temporary : Place} (absent : disk.tree.item? temporary = none)
    (item : Item) (injection : Injection) :
    exec (discard temporary) { disk with tree := disk.tree.put temporary item, injection } =
      (.ok (), { disk with injection }) := by
  simp [discard, Tree.remove_put absent]

/-- Fills a temporary file and gives it the path of another, or removes it. -/
def replaceWith (temporary : Place) (path : Path) (octets : ByteArray) (mode : Nat) :
    DiskAction WriteFault Unit :=
  tryCatch
    (do
      fill temporary octets mode
      rename temporary path)
    fun fault => do
      discard temporary
      throw fault

theorem exec_replaceWith {disk : Disk} {path : Path} {temporary place : Place}
    (octets : ByteArray) (mode : Nat) (absent : disk.tree.item? temporary = none)
    (found : disk.placeOf path = .ok place)
    (apart : disk.tree.item? place = some .directory ∨ place ≠ temporary) :
    exec (replaceWith temporary path octets mode) (withTemporary disk temporary) =
      match disk.injection.writes 0, disk.injection.renames 0 with
      | some fault, _ => (.error (.disk fault), { disk with injection := afterWrite disk.injection })
      | none, some fault =>
        (.error (.disk fault),
          { disk with injection := afterRename (afterWrite disk.injection) })
      | none, none =>
        if disk.tree.item? place = some .directory then
          (.error (.disk (directoryFault path)),
            { disk with injection := afterRename (afterWrite disk.injection) })
        else
          (.ok (), { disk with
            tree := disk.tree.put place (.file octets mode)
            injection := afterRename (afterWrite disk.injection) }) := by
  rw [replaceWith, withTemporary, exec_tryCatch, exec_bind, exec_fill]
  cases writes : disk.injection.writes 0 with
  | some fault => simp only [exec_bind, exec_discard absent, exec_throw]
  | none =>
    simp only [Tree.put_put, exec_rename absent found apart]
    have later : (afterWrite disk.injection).renames 0 = disk.injection.renames 0 := rfl
    rw [later]
    cases disk.injection.renames 0 with
    | some fault => simp only [exec_bind, exec_discard absent, exec_throw]
    | none =>
      by_cases directory : disk.tree.item? place = some .directory
      · simp only [if_pos directory, exec_bind, exec_discard absent, exec_throw]
      · simp only [if_neg directory]

/-! ## Whole writes -/

theorem hasNull_of_exec_makeDirectories {path : Path} {disk : Disk}
    (stopped : (exec (makeDirectories path) disk).1 = .error .nullCharacter) :
    path.hasNull = true := by
  cases named : path.hasNull with
  | true => rfl
  | false =>
    simp only [makeDirectories, named, Bool.false_eq_true, if_false, exec_adapt] at stopped
    cases ran : exec (makeAll path (path.parts.length + 1)) disk with
    | mk result grown =>
      rw [ran] at stopped
      cases result <;> cases stopped

/-- Writes a file in a directory that is there. -/
def writeBeside (path : Path) (octets : ByteArray) : DiskAction WriteFault Unit := do
  let mode ← modeFor path
  let temporary ← makeTemporary path
  replaceWith temporary path octets mode

theorem exec_writeWhole (path : Path) (content : String) (disk : Disk) :
    exec (writeWhole path content) disk =
      match exec (makeDirectories path.parent) disk with
      | (.error fault, grown) => (.error fault, grown)
      | (.ok (), grown) =>
        if path.hasNull then (.error .nullCharacter, grown)
        else exec (writeBeside path (Text.encode content)) grown := by
  simp only [writeWhole, exec_bind]
  cases exec (makeDirectories path.parent) disk with
  | mk result grown =>
    cases result with
    | error fault => rfl
    | ok =>
      cases named : path.hasNull with
      | true => rfl
      | false => simp [writeBeside, replaceWith]

/-- What a write leaves: a disk with directories made, and if it succeeded the file with all its
octets at the place that its path led to. -/
inductive Wrote (disk : Disk) (path : Path) (octets : ByteArray) :
    Except WriteFault Unit × Disk → Prop where
  | failed {grown : Disk} {injection : Injection} {fault : WriteFault} :
      disk.GrowsTo grown → disk.injection.Follows injection →
      (fault = .nullCharacter → path.hasNull = true) →
      Wrote disk path octets (.error fault, { grown with injection })
  | written {grown : Disk} {injection : Injection} {place : Place} :
      disk.GrowsTo grown → disk.injection.Follows injection → path.hasNull = false →
      grown.placeOf path = .ok place → grown.tree.item? place ≠ some .directory →
      Wrote disk path octets (.ok (), { grown with
        tree := grown.tree.put place (.file octets (modeAt grown (grown.tree.item? place)))
        injection })

/-- What a write in a directory that is there leaves: the disk as it was, or one with the file put at
the place that its path leads to. -/
inductive WroteBeside (disk : Disk) (path : Path) (octets : ByteArray) :
    Except WriteFault Unit × Disk → Prop where
  | failed {injection : Injection} {fault : DiskFault} : disk.injection.Follows injection →
      WroteBeside disk path octets (.error (.disk fault), { disk with injection })
  | written {injection : Injection} {place : Place} : disk.injection.Follows injection →
      disk.placeOf path = .ok place → disk.tree.item? place ≠ some .directory →
      WroteBeside disk path octets (.ok (), { disk with
        tree := disk.tree.put place (.file octets (modeAt disk (disk.tree.item? place)))
        injection })

theorem wroteBeside_writeBeside {disk : Disk} {path : Path} (octets : ByteArray)
    (sound : disk.Sound) (named : path.hasNull = false)
    (parent : disk.look path.parent = .ok (some .directory)) :
    WroteBeside disk path octets (exec (writeBeside path octets) disk) := by
  have untouched : disk.injection.Follows disk.injection := ⟨0, 0, rfl⟩
  have once : disk.injection.Follows (afterWrite disk.injection) := ⟨1, 0, rfl⟩
  have twice : disk.injection.Follows (afterRename (afterWrite disk.injection)) := ⟨1, 1, rfl⟩
  rw [writeBeside, exec_bind, exec_modeFor]
  cases looked : disk.look path with
  | error fault => exact .failed untouched
  | ok seen =>
    obtain ⟨place, led, seen_eq, apart⟩ := placeOf_of_parent parent named looked
    rcases exec_makeTemporary path disk with ⟨fault, stopped⟩ | ⟨directory, name, temporary⟩
    · simp only [Except.mapError, Except.map, exec_bind, stopped]
      exact .failed untouched
    · obtain ⟨absent, -⟩ := freeName?_eq_some temporary.free
      have different := temporary.apart (seen_eq ▸ apart sound)
      simp only [Except.mapError, Except.map, exec_bind,
        exec_makeTemporary_of_hasTemporary temporary,
        exec_replaceWith octets _ absent led different]
      cases disk.injection.writes 0 with
      | some fault => exact .failed once
      | none =>
        cases disk.injection.renames 0 with
        | some fault => exact .failed twice
        | none =>
          by_cases directory : disk.tree.item? place = some .directory
          · simp only [if_pos directory]
            exact .failed twice
          · simp only [if_neg directory, ← seen_eq]
            exact .written twice led directory

theorem WroteBeside.wrote {disk grown : Disk} {path : Path} {octets : ByteArray}
    {ended : Except WriteFault Unit × Disk} (wrote : WroteBeside grown path octets ended)
    (grows : disk.GrowsTo grown) (named : path.hasNull = false) : Wrote disk path octets ended := by
  have kept : grown.injection = disk.injection := by rw [grows.rest]
  cases wrote with
  | failed follows => exact .failed grows (kept ▸ follows) nofun
  | written follows led notDirectory =>
    exact .written grows (kept ▸ follows) named led notDirectory

/-- A write is whole or not at all. -/
theorem wrote_writeWhole {disk : Disk} (sound : disk.Sound) (path : Path) (content : String) :
    Wrote disk path (Text.encode content) (exec (writeWhole path content) disk) := by
  rw [exec_writeWhole]
  have makes := exec_makeDirectories path.parent disk
  cases made : exec (makeDirectories path.parent) disk with
  | mk result grown =>
    rw [made] at makes
    obtain ⟨grows, there⟩ := makes
    simp only at grows there
    have kept : grown.injection = disk.injection := by rw [grows.rest]
    cases result with
    | error fault =>
      refine .failed grows ⟨0, 0, kept⟩ fun null => Path.hasNull_of_parent ?_
      exact hasNull_of_exec_makeDirectories (by rw [made, null])
    | ok =>
      cases named : path.hasNull with
      | true => exact .failed grows ⟨0, 0, kept⟩ fun _ => named
      | false =>
        exact (wroteBeside_writeBeside _ (grows.sound sound) named (there rfl)).wrote grows named

end DiskAction

end Scaffold
