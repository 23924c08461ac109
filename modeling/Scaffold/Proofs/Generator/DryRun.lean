import Scaffold.Proofs.Artifact.Preview
import Scaffold.Proofs.Generator.Run

/-!
# Dry runs

A generator reads the first text of an invocation and the options that it takes, and none of these
asks for a preview. So a dry run is planned as the run is that it rehearses. It leaves everything as
it is and shows exactly the artifacts that the run is to make, and if the run exits with 0, they are
the new files.
-/

set_option autoImplicit false

namespace Scaffold

/-- Whether two sets of fields have the same values under some names. -/
def Fields.AgreeOn (names : List String) (first second : Fields) : Prop :=
  ∀ name ∈ names, second.get? name = first.get? name

theorem Fields.AgreeOn.mono {names fewer : List String} {first second : Fields}
    (agree : Fields.AgreeOn names first second) (among : fewer ⊆ names) :
    Fields.AgreeOn fewer first second :=
  fun name member => agree name (among member)

namespace Generator

variable {root : Path} {base : Place} {spec : Spec} {workspace : Workspace}

/-! ## What a generator reads of its options -/

section Reading

variable {first second : Fields}

end Reading

/-- The options that a generator reads. -/
def Spec.optionNames (spec : Spec) : List String :=
  spec.mustBeGiven ++ Keyed.keys spec.options ++ spec.switches

/-- Whether two invocations are the same to a generator but for being dry runs. -/
structure Invocation.Alike (spec : Spec) (first second : Invocation) : Prop where
  positional : second.positional = first.positional
  options : Fields.AgreeOn spec.optionNames first.options second.options

namespace Invocation.Alike

variable {first second : Invocation}

theorem mustBeGiven (alike : Alike spec first second) :
    Fields.AgreeOn spec.mustBeGiven first.options second.options :=
  alike.options.mono fun _ member => List.mem_append_left _ (List.mem_append_left _ member)

theorem requestName_eq (alike : Alike spec first second) :
    requestName spec second = requestName spec first := by
  rw [requestName, requestName, baseName, baseName, alike.positional]

end Invocation.Alike

/-- Whether one tree has a file where the other has nothing. -/
def IsNewFile (old new : Tree) (place : Place) (octets : ByteArray) (mode : Nat) : Prop :=
  old.item? place = none ∧ new.item? place = some (.file octets mode)

/-- The new files of a run that is completed are those of its artifacts. -/
theorem isNewFile_iff_of_completed {planned finished : Workspace} {disk : Disk}
    {artifacts : List Artifact} {rewritten : Place → Prop}
    (makes : Makes planned finished root base artifacts)
    (extended : finished.disk.Extends disk (fun _ _ => False) rewritten)
    (apart : ∀ artifact ∈ artifacts, ¬rewritten (base ++ artifact.parts)) (place : Place)
    (octets : ByteArray) (mode : Nat) :
    IsNewFile planned.disk.tree disk.tree place octets mode ↔
      mode = planned.disk.newMode ∧ ∃ artifact ∈ artifacts,
        place = base ++ artifact.parts ∧ octets = Text.encode artifact.content := by
  constructor
  · intro isNew
    obtain ⟨absent, present⟩ := isNew
    obtain ⟨mode_eq, none | ⟨made, ⟨artifact, among, rfl, rfl⟩, same⟩⟩ :=
      (makes.extends.trans extended).new place octets mode absent present
    · cases none
    · exact ⟨mode_eq, artifact, among, rfl, same.resolve_right (apart artifact among)⟩
  · rintro ⟨rfl, artifact, among, rfl, rfl⟩
    have member : fileBelow base artifact ∈ artifacts.map (fileBelow base) :=
      List.mem_map_of_mem among
    refine ⟨makes.gains.absent _ member, ?_⟩
    obtain ⟨after, present, same⟩ := extended.file _ _ _ (makes.gains.present _ member)
    obtain rfl := same.resolve_right (apart artifact among)
    exact present

/-! ## Rehearsals -/

theorem settled_ne (failure : Failure) (workspace final : Workspace) :
    settled failure workspace ≠ (.ok 0, final) := by
  cases failure <;> nofun

/-- What a run that was planned makes if it exits with 0. -/
theorem isNewFile_iff_of_exit {invocation : Invocation} {request : Request}
    {artifacts : List Artifact} {next final : Workspace} (known : spec ∈ catalogue)
    (sound : workspace.disk.Sound) (rooted : workspace.disk.IsRoot root base)
    (real : invocation.isDryRun = false)
    (planned : exec (plan root spec invocation) workspace = (.ok (request, artifacts), next))
    (ran : exec (run root spec invocation) workspace = (.ok 0, final)) (place : Place)
    (octets : ByteArray) (mode : Nat) :
    IsNewFile workspace.disk.tree final.disk.tree place octets mode ↔
      mode = workspace.disk.newMode ∧ ∃ artifact ∈ artifacts,
        place = base ++ artifact.parts ∧ octets = Text.encode artifact.content := by
  have plans := plans_plan root spec invocation workspace
  rw [planned] at plans
  have begun := plans.unwritten.extends
  rw [← plans.unwritten.tree, ← Disk.newMode_eq begun.umask]
  cases plans with
  | @planned settings _ _ valid loaded provided =>
    have realizes := realizes_run known (begun.sound sound) (begun.isRoot rooted) real provided
      planned
    generalize ended : exec (run root spec invocation) workspace = result at realizes
    cases realizes with
    | stopped =>
      rw [ended] at ran
      exact absurd ran (settled_ne _ _ _)
    | unseen =>
      rw [ended] at ran
      cases ran
    | completed makes extended =>
      rw [ended] at ran
      cases ran
      refine isNewFile_iff_of_completed makes extended ?_ place octets mode
      -- The composition file is none of the files that were made.
      rintro artifact among ⟨rfl, led⟩
      exact ne_compositionFile led provided among rfl

end Generator

end Scaffold
