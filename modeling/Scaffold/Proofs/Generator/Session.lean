import Scaffold.Proofs.Generator.Run

/-!
# What a session leaves

Calls of generators one after the other, by one engine or by several, whatever they are given and
whatever the faults of the disk. Every file that was there stays with its permissions and its octets,
and every new file is an artifact of one of the calls. The only files that are rewritten are the
composition files in which a call for a controller has it registered.
-/

set_option autoImplicit false

namespace Scaffold

namespace Generator

/-- A call of a generator, by a new engine, which has not read the settings, or by the one before. -/
structure Call where
  spec : Spec
  invocation : Invocation
  isFresh : Bool

namespace Call

/-- The workspace in which a call starts. -/
def start (call : Call) (workspace : Workspace) : Workspace :=
  if call.isFresh then { workspace with settings := none } else workspace

def result (root : Path) (call : Call) (workspace : Workspace) : Except Failure Nat × Workspace :=
  exec (run root call.spec call.invocation) (call.start workspace)

/-- Whether an artifact is one of those that a call provides and is to make. -/
def IsToMake (root : Path) (call : Call) (workspace : Workspace) (artifact : Artifact) : Prop :=
  call.invocation.isDryRun = false ∧ ∃ request artifacts next,
    exec (plan root call.spec call.invocation) (call.start workspace) =
      (.ok (request, artifacts), next) ∧ artifact ∈ artifacts

/-- Whether the composition file that a call registers a controller in is at a place, and the call
exits with 0. -/
def RegistersAt (root : Path) (call : Call) (workspace : Workspace) (place : Place) : Prop :=
  call.spec = controllerSpec ∧ call.invocation.isDryRun = false ∧ ∃ final,
    call.result root workspace = (.ok 0, final) ∧
    final.disk.placeOf (compositionFile root (nameOf call.invocation.options "module")) = .ok place

end Call

/-- The workspace after calls in turn. -/
def afterCalls (root : Path) (calls : List Call) (workspace : Workspace) : Workspace :=
  calls.foldl (fun workspace call => (call.result root workspace).2) workspace

/-- Whether one of some calls in turn registers a controller in the file at a place. -/
def RegisteredBy (root : Path) (calls : List Call) (workspace : Workspace) (place : Place) : Prop :=
  ∃ done call rest, calls = done ++ call :: rest ∧
    call.RegistersAt root (afterCalls root done workspace) place

variable {root : Path} {base : Place} {workspace : Workspace} {call : Call}

/-! ## One call -/

theorem Call.disk_start (call : Call) (workspace : Workspace) :
    (call.start workspace).disk = workspace.disk := by
  unfold start
  split <;> rfl

/-- What a call leaves that is no dry run and was planned. -/
theorem Call.extends_of_planned {settings : Settings} {artifacts : List Artifact}
    {next : Workspace} (known : call.spec ∈ catalogue) (sound : workspace.disk.Sound)
    (rooted : workspace.disk.IsRoot root base) (real : call.invocation.isDryRun = false)
    (begun : workspace.disk.Extends next.disk (fun _ _ => False) (fun _ => False))
    (provided : call.spec.provide (requestOf call.spec call.invocation settings) = .ok artifacts)
    (planned : exec (plan root call.spec call.invocation) (call.start workspace) =
      (.ok (requestOf call.spec call.invocation settings, artifacts), next)) :
    workspace.disk.Extends (call.result root workspace).2.disk
      (fun place octets => ∃ artifact, call.IsToMake root workspace artifact ∧
        place = base ++ artifact.parts ∧ octets = Text.encode artifact.content)
      (call.RegistersAt root workspace) := by
  have realizes := realizes_run known (begun.sound sound) (begun.isRoot rooted) real provided
    planned
  have gained {made remaining : List Artifact} {new : Workspace}
      (split : artifacts = made ++ remaining) (makes : Makes next new root base made) :
      workspace.disk.Extends new.disk
        (fun place octets => ∃ artifact ∈ artifacts,
          place = base ++ artifact.parts ∧ octets = Text.encode artifact.content)
        (fun _ => False) := by
    refine (begun.of_unchanged makes.extends).imp ?_ fun _ => id
    rintro place octets ⟨artifact, among, placed⟩
    exact ⟨artifact, split ▸ List.mem_append_left _ among, placed⟩
  have toMake (place : Place) (octets : ByteArray) : (∃ artifact ∈ artifacts,
        place = base ++ artifact.parts ∧ octets = Text.encode artifact.content) →
      ∃ artifact, call.IsToMake root workspace artifact ∧
        place = base ++ artifact.parts ∧ octets = Text.encode artifact.content := by
    rintro ⟨artifact, member, placed⟩
    exact ⟨artifact, ⟨real, _, artifacts, next, planned, member⟩, placed⟩
  have result_eq : call.result root workspace =
      exec (run root call.spec call.invocation) (call.start workspace) := rfl
  rw [← result_eq] at realizes
  generalize ended : call.result root workspace = result at realizes
  cases realizes with
  | stopped split makes _ =>
    rw [disk_settled]
    exact (gained split makes).imp toMake nofun
  | unseen makes _ _ => exact (gained (List.append_nil _).symm makes).imp toMake nofun
  | completed makes extended =>
    refine ((gained (List.append_nil _).symm makes).trans extended).imp ?_ ?_
    · intro place octets isNew
      rcases isNew with none | ⟨first, ⟨artifact, member, rfl, rfl⟩, same | ⟨isController, led⟩⟩
      · cases none
      · exact toMake _ _ ⟨artifact, member, rfl, same⟩
      · -- The composition file is none of the files that were made.
        obtain ⟨spec, invocation, isFresh⟩ := call
        obtain rfl : spec = controllerSpec := isController
        exact absurd rfl (ne_compositionFile led provided member)
    · intro place isRewritten
      rcases isRewritten with none | ⟨isController, led⟩
      · cases none
      · exact ⟨isController, real, _, ended, extended.placeOf_eq led⟩

/-- A call keeps all files, rewrites at most a composition file and makes nothing but its artifacts,
however it ends. -/
theorem Call.extends_result (root : Path) (known : call.spec ∈ catalogue)
    (sound : workspace.disk.Sound) (rooted : workspace.disk.IsRoot root base) :
    workspace.disk.Extends (call.result root workspace).2.disk
      (fun place octets => ∃ artifact, call.IsToMake root workspace artifact ∧
        place = base ++ artifact.parts ∧ octets = Text.encode artifact.content)
      (call.RegistersAt root workspace) := by
  have plans := plans_plan root call.spec call.invocation (call.start workspace)
  have begun := plans.unwritten.extends
  rw [call.disk_start] at begun
  cases planned : exec (plan root call.spec call.invocation) (call.start workspace) with
  | mk result next =>
    rw [planned] at plans begun
    cases result with
    | error failure =>
      rw [Call.result, exec_run_of_unplanned planned, disk_settled]
      exact begun.imp nofun nofun
    | ok planning =>
      cases plans with
      | planned valid loaded provided =>
        cases dry : call.invocation.isDryRun with
        | true =>
          rw [Call.result, exec_run_of_dryRun known dry planned]
          exact begun.imp nofun nofun
        | false => exact call.extends_of_planned known sound rooted dry begun provided planned

/-! ## All calls -/

theorem RegisteredBy.cons {calls : List Call} {place : Place}
    (registered : RegisteredBy root calls (call.result root workspace).2 place) :
    RegisteredBy root (call :: calls) workspace place := by
  obtain ⟨done, later, rest, rfl, registers⟩ := registered
  exact ⟨call :: done, later, rest, rfl, registers⟩

/-- Calls in turn keep every file with its permissions and its octets, but for composition files that
one of them registers in, and make nothing but artifacts of theirs, which stay as they were made. -/
theorem extends_afterCalls {calls : List Call} (sound : workspace.disk.Sound)
    (rooted : workspace.disk.IsRoot root base) (known : ∀ call ∈ calls, call.spec ∈ catalogue) :
    workspace.disk.Extends (afterCalls root calls workspace).disk
      (fun place octets => ∃ done call rest artifact, calls = done ++ call :: rest ∧
        call.IsToMake root (afterCalls root done workspace) artifact ∧
        place = base ++ artifact.parts ∧
        (octets = Text.encode artifact.content ∨
          RegisteredBy root rest (afterCalls root (done ++ [call]) workspace) place))
      (RegisteredBy root calls workspace) := by
  -- Each call leaves a sound disk on which the root still leads below the base.
  induction calls generalizing workspace with
  | nil => exact (Disk.Extends.refl _).imp nofun nofun
  | cons call calls ih =>
    obtain ⟨knownFirst, knownRest⟩ := List.forall_mem_cons.1 known
    have first := call.extends_result root knownFirst sound rooted
    have rest := ih (first.sound sound) (first.isRoot rooted) knownRest
    refine (first.trans rest).imp ?_ ?_
    · intro place octets isNew
      rcases isNew with ⟨done, later, last, artifact, rfl, toMake, placed, same⟩ |
        ⟨held, ⟨artifact, toMake, placed, rfl⟩, same⟩
      · exact ⟨call :: done, later, last, artifact, rfl, toMake, placed, same⟩
      · exact ⟨[], call, calls, artifact, rfl, toMake, placed, same⟩
    · intro place isRewritten
      rcases isRewritten with registers | registered
      · exact ⟨[], call, calls, rfl, registers⟩
      · exact registered.cons

/-- A project without anything, in the directory where paths start. -/
def bareWorkspace : Workspace :=
  .start ⟨.bare, [], 0o022, .quiet⟩

/-- A job is made, and then again by another engine, which is refused. -/
def sendTwice : List Call :=
  [⟨jobSpec, ⟨["send"], []⟩, true⟩, ⟨jobSpec, ⟨["send"], []⟩, true⟩]

theorem extends_afterCalls_sendTwice :
    bareWorkspace.disk.Sound ∧ bareWorkspace.disk.IsRoot ⟨.relative, []⟩ [] ∧
      (∀ call ∈ sendTwice, call.spec ∈ catalogue) ∧
      bareWorkspace.disk.Extends (afterCalls ⟨.relative, []⟩ sendTwice bareWorkspace).disk
        (fun place octets => ∃ done call rest artifact, sendTwice = done ++ call :: rest ∧
          call.IsToMake ⟨.relative, []⟩ (afterCalls ⟨.relative, []⟩ done bareWorkspace) artifact ∧
          place = [] ++ artifact.parts ∧
          (octets = Text.encode artifact.content ∨ RegisteredBy ⟨.relative, []⟩ rest
            (afterCalls ⟨.relative, []⟩ (done ++ [call]) bareWorkspace) place))
        (RegisteredBy ⟨.relative, []⟩ sendTwice bareWorkspace) := by
  have sound : bareWorkspace.disk.Sound := ⟨Tree.sound_bare, rfl⟩
  have rooted : bareWorkspace.disk.IsRoot ⟨.relative, []⟩ [] := Disk.isRoot_of_directory rfl rfl
  have known : ∀ call ∈ sendTwice, call.spec ∈ catalogue := by
    simp [sendTwice, catalogue]
  exact ⟨sound, rooted, known, extends_afterCalls sound rooted known⟩

end Generator

end Scaffold
