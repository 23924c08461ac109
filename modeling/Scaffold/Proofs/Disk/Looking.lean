import Scaffold.Proofs.Disk.Growth

/-!
# What looking at a path tells

Looking at a path fails only where the walk along it meets a name that is too long: the directory
above that name is there, so the disk is asked for an entry that no directory can have.
-/

set_option autoImplicit false

namespace Scaffold

namespace Disk

/-- Whether a walk along names comes to a directory and is then to go on by a name that is too
long. -/
inductive MeetsLongName (tree : Tree) : Place → List String → Prop where
  | here {place : Place} {name : String} {names : List String} :
      tree.item? place = some .directory → name ≠ ".." → isLongName name = true →
      MeetsLongName tree place (name :: names)
  | up {place : Place} {names : List String} :
      tree.item? place = some .directory → MeetsLongName tree place.dropLast names →
      MeetsLongName tree place (".." :: names)
  | down {place : Place} {name : String} {names : List String} :
      tree.item? place = some .directory → name ≠ ".." → isLongName name = false →
      MeetsLongName tree (place ++ [name]) names → MeetsLongName tree place (name :: names)

/-- A walk meets a long name in the next one, or goes on by that and meets one below. -/
theorem meetsLongName_cons_iff {tree : Tree} {place : Place} {name : String} {names : List String} :
    MeetsLongName tree place (name :: names) ↔ tree.item? place = some .directory ∧
      if name = ".." then MeetsLongName tree place.dropLast names
      else isLongName name = true ∨ MeetsLongName tree (place ++ [name]) names := by
  constructor
  · intro meets
    cases meets with
    | here there other long => exact ⟨there, if_neg other ▸ .inl long⟩
    | up there meets => exact ⟨there, if_pos rfl ▸ meets⟩
    | down there other _ meets => exact ⟨there, if_neg other ▸ .inr meets⟩
  · rintro ⟨there, goesOn⟩
    split at goesOn
    · next same =>
      subst same
      exact .up there goesOn
    · next other =>
      cases long : isLongName name with
      | true => exact .here there other long
      | false =>
        rw [long] at goesOn
        exact .down there other long (goesOn.resolve_left Bool.false_ne_true)

theorem checkDirectory_eq_error {tree : Tree} {place : Place} {fault : DiskFault}
    (checked : checkDirectory tree place = .error fault) :
    fault.meansAbsent = true ∧ tree.item? place ≠ some .directory := by
  unfold checkDirectory at checked
  split at checked <;> cases checked <;> simp_all [DiskFault.meansAbsent]

theorem walk_eq_error_iff {tree : Tree} {start : Place} {names : List String} {fault : DiskFault} :
    walk tree start names = .error fault ∧ fault.meansAbsent = false ↔
      fault = .nameTooLong ∧ MeetsLongName tree start names := by
  induction names generalizing start with
  | nil =>
    constructor
    · rintro ⟨failed, -⟩
      cases failed
    · rintro ⟨-, meets⟩
      cases meets
  | cons name names ih =>
    rw [walk, meetsLongName_cons_iff]
    cases checked : checkDirectory tree start with
    | error other =>
      obtain ⟨absent, elsewhere⟩ := checkDirectory_eq_error checked
      refine iff_of_false ?_ fun meets => elsewhere meets.2.1
      rintro ⟨failed, present⟩
      cases failed
      rw [absent] at present
      cases present
    | ok =>
      have there := checkDirectory_eq_ok_iff.1 checked
      simp only [there, true_and, bind, Except.bind]
      by_cases up : name = ".."
      · rw [if_pos up, if_pos up, ih]
      · rw [if_neg up, if_neg up]
        cases long : isLongName name with
        | true =>
          rw [if_pos rfl]
          constructor
          · rintro ⟨failed, -⟩
            cases failed
            exact ⟨rfl, .inl rfl⟩
          · rintro ⟨rfl, -⟩
            exact ⟨rfl, by decide⟩
        | false => rw [if_neg Bool.false_ne_true, ih, or_iff_right Bool.false_ne_true]

/-- Whether the disk cannot tell what is at a path, since a name on the way is too long. -/
def CannotSee (disk : Disk) (path : Path) : Prop :=
  path.hasNull = false ∧
    MeetsLongName disk.tree (if path.isAbsolute then [] else disk.start) path.parts

theorem look_eq_error_iff {disk : Disk} {path : Path} {fault : DiskFault} :
    disk.look path = .error fault ↔ fault = .nameTooLong ∧ disk.CannotSee path := by
  unfold CannotSee look status
  cases named : path.hasNull with
  | true => simp
  | false =>
    have walked : disk.placeOf path = .error fault ∧ fault.meansAbsent = false ↔
        fault = .nameTooLong ∧
          MeetsLongName disk.tree (if path.isAbsolute then [] else disk.start) path.parts :=
      walk_eq_error_iff
    simp only [true_and, ← walked]
    cases led : disk.placeOf path with
    | error other =>
      cases absent : other.meansAbsent with
      | true =>
        simp only [bind, Except.bind, absent, Bool.false_eq_true, if_false, if_true]
        constructor
        · intro failed
          cases failed
        · rintro ⟨same, present⟩
          cases same
          rw [absent] at present
          cases present
      | false =>
        simp only [bind, Except.bind, absent, Bool.false_eq_true, if_false]
        constructor
        · intro same
          cases same
          exact ⟨rfl, absent⟩
        · rintro ⟨same, -⟩
          cases same
          rfl
    | ok place =>
      cases present : disk.tree.item? place <;>
        simp [bind, Except.bind, present, DiskFault.meansAbsent]

end Disk

/-! ## Reading a text

What reading a file gives and leaves. A read takes its turn in the schedule of faults, whether it
succeeds or not, and leaves everything else as it was. -/

namespace DiskAction

theorem exec_octetsAt (path : Path) (disk : Disk) :
    exec (octetsAt path) disk =
      (match disk.injection.reads 0, disk.status path with
        | some fault, _ => .error fault
        | none, .error fault => .error fault
        | none, .ok .directory => .error .isDirectory
        | none, .ok (.file octets _) => .ok octets,
        { disk with injection.reads := disk.injection.reads.later }) := by
  simp only [octetsAt, takeReadFault, exec_bind, exec_get, exec_set]
  cases disk.injection.reads 0 with
  | some fault => rfl
  | none =>
    have status_eq : Disk.status { disk with injection.reads := disk.injection.reads.later } path =
        disk.status path := rfl
    simp only [exec_pure, status_eq]
    cases disk.status path with
    | error fault => rfl
    | ok item => cases item <;> rfl

def afterRead (disk : Disk) : Disk :=
  { disk with injection.reads := disk.injection.reads.later }

theorem afterRead_of_quiet {disk : Disk} (quiet : disk.injection = .quiet) :
    afterRead disk = disk := by
  obtain ⟨tree, start, umask, injection⟩ := disk
  subst quiet
  rfl

/-- The text that a file reads as. -/
def textAt (disk : Disk) (path : Path) : Except ReadFault String :=
  match disk.injection.reads 0, disk.status path with
  | some fault, _ => .error (.disk fault)
  | none, .error fault => .error (.disk fault)
  | none, .ok .directory => .error (.disk .isDirectory)
  | none, .ok (.file octets _) =>
    match Text.decode octets with
    | .ok text => .ok (String.ofList (Text.feedLines text.toList))
    | .error undecodable => .error (.undecodable undecodable)

/-- The text of a file that can be seen and read. -/
theorem textAt_of_look {disk : Disk} {path : Path} {octets : ByteArray} {mode : Nat}
    (found : disk.look path = .ok (some (.file octets mode)))
    (undisturbed : disk.injection.reads 0 = none) :
    textAt disk path =
      match Text.decode octets with
      | .ok text => .ok (String.ofList (Text.feedLines text.toList))
      | .error undecodable => .error (.undecodable undecodable) := by
  rw [textAt, undisturbed, Disk.status_of_look found]

theorem exec_readText (path : Path) (disk : Disk) :
    exec (readText path) disk = (textAt disk path, afterRead disk) := by
  simp only [readText, exec_bind, exec_adapt, exec_octetsAt, textAt]
  cases disk.injection.reads 0 with
  | some fault => rfl
  | none =>
    cases disk.status path with
    | error fault => rfl
    | ok item =>
      cases item with
      | directory => rfl
      | file octets mode =>
        cases decoded : Text.decode octets <;> simp [decoded, afterRead]

end DiskAction

end Scaffold
