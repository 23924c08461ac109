import Scaffold.Generator.Create
import Scaffold.Proofs.Disk.Gains
import Scaffold.Proofs.Workspace

/-!
# The files that are made

Making the files of artifacts ends after some of them. Each of these is a new file with its whole
content, the disk is otherwise as it was but for directories, and a failure is about the artifact
after them and tells of their files.
-/

set_option autoImplicit false

namespace Scaffold.Artifact

theorem plain_of_parts? {text : String} {parts : List String} (found : parts? text = some parts) :
    ".." ∉ parts := by
  simp only [parts?] at found
  split at found
  · cases found
  · next accepted =>
    simp only [Bool.or_eq_true, not_or, List.contains_iff_mem] at accepted
    rw [Option.some.injEq] at found
    rw [← found]
    exact accepted.2

theorem plain_of_checkPath {value : Value} {parts : List String}
    (checked : checkPath value = .ok parts) : ".." ∉ parts := by
  unfold checkPath at checked
  cases held : Checked.text value with
  | error problems =>
    rw [held] at checked
    cases checked
  | ok text =>
    simp only [held, bind, Except.bind] at checked
    cases found : parts? text with
    | none =>
      rw [found] at checked
      cases checked
    | some named =>
      rw [found] at checked
      cases checked
      exact plain_of_parts? found

theorem exists_of_field {α : Type} {fields : Fields} {name : String} {check : Value → Checked α}
    {result : α} (checked : field fields name check = .ok result) :
    ∃ value, check value = .ok result := by
  unfold field Checked.within at checked
  cases held : fields.get? name with
  | none =>
    rw [held] at checked
    cases checked
  | some value =>
    rw [held, Option.elim_some] at checked
    cases accepted : check value with
    | error problems =>
      rw [accepted] at checked
      cases checked
    | ok given =>
      rw [accepted] at checked
      cases checked
      exact ⟨value, accepted⟩

/-- The path of an artifact that was checked never goes up. -/
theorem plain_of_ofFields {fields : Fields} {artifact : Artifact}
    (checked : ofFields fields = .ok artifact) : ".." ∉ artifact.parts := by
  unfold ofFields at checked
  cases path : field fields "path" checkPath with
  | error problems =>
    rw [path] at checked
    cases checked
  | ok parts =>
    obtain ⟨value, accepted⟩ := exists_of_field path
    rw [path] at checked
    cases content : field fields "content" Checked.text <;>
      cases kind : field fields "kind" Checked.text <;>
      rw [content, kind] at checked <;> cases checked
    exact plain_of_checkPath accepted

end Scaffold.Artifact

namespace Scaffold.Generator

/-- The file of an artifact below a place: where it is and its octets. -/
def fileBelow (base : Place) (artifact : Artifact) : Place × ByteArray :=
  (base ++ artifact.parts, Text.encode artifact.content)

def created (artifact : Artifact) : Printed :=
  ⟨.report, Console.success ("Created " ++ artifact.kind ++ ": " ++ artifact.pathText)⟩

/-- A workspace before and after the files of artifacts were made in it, and nothing else. -/
structure Makes (old new : Workspace) (root : Path) (base : Place) (made : List Artifact) : Prop
    where
  gains : old.disk.Gains new.disk (made.map (fileBelow base))
  seen : ∀ artifact ∈ made, new.disk.look (artifact.target root) =
    .ok (some (.file (Text.encode artifact.content) old.disk.newMode))
  settings : new.settings = old.settings
  transcript : new.transcript = old.transcript ++ made.map created

/-- How making the file of an artifact fails, after other files were written. -/
inductive FailsAt (root : Path) (artifact : Artifact) (written : List Path) (disk : Disk) :
    Failure → Prop where
  | there {item : Item} : disk.look (artifact.target root) = .ok (some item) →
      FailsAt root artifact written disk
        (.refused (.alreadyExists artifact.kind (artifact.target root) written))
  | unwritten (fault : DiskFault) :
      FailsAt root artifact written disk
        (.refused (.unwritten artifact.kind (artifact.target root) fault.reason written))
  | unseen {fault : DiskFault} : disk.look (artifact.target root) = .error fault →
      FailsAt root artifact written disk (.mishap (.disk fault))
  | unnameable : (artifact.target root).hasNull = true →
      FailsAt root artifact written disk (.mishap .nullCharacter)

/-- How making files ends, with those that are written and those that remain: either none remains
and the files are given, or it fails at the next one. -/
inductive Ends (root : Path) (written : List Path) (disk : Disk) :
    List Artifact → Except Failure (List Path) → Prop where
  | complete : Ends root written disk [] (.ok written)
  | failed {artifact : Artifact} {remaining : List Artifact} {failure : Failure} :
      FailsAt root artifact written disk failure →
      Ends root written disk (artifact :: remaining) (.error failure)

variable {workspace : Workspace} {root : Path} {base : Place}

namespace Makes

theorem refl (workspace : Workspace) (root : Path) (base : Place) :
    Makes workspace workspace root base [] :=
  ⟨.refl workspace.disk, nofun, rfl, (List.append_nil _).symm⟩

theorem append {old middle new : Workspace} {made later : List Artifact}
    (before : Makes old middle root base made) (after : Makes middle new root base later) :
    Makes old new root base (made ++ later) where
  gains := by
    rw [List.map_append]
    exact before.gains.append after.gains
  seen artifact member := by
    rcases List.mem_append.1 member with member | member
    · exact after.gains.look_eq (before.seen artifact member)
    · rw [after.seen artifact member, Disk.newMode_eq before.gains.umask]
  settings := after.settings.trans before.settings
  transcript := by
    rw [after.transcript, before.transcript, List.map_append, List.append_assoc]

end Makes

/-! ## One file -/

theorem exec_isThere (target : Path) (workspace : Workspace) :
    exec (isThere target) workspace =
      (((workspace.disk.look target).map Option.isSome).mapError fun fault =>
        Failure.mishap (.disk fault), workspace) := by
  simp only [isThere, WorkspaceAction.exec_onDisk, exec_adapt, DiskAction.exec_fileExists]
  cases workspace.disk.look target <;> rfl

theorem exec_write (artifact : Artifact) (target : Path) (workspace : Workspace) :
    exec (write artifact target) workspace =
      match exec (DiskAction.writeWhole target artifact.content) workspace.disk with
      | (.ok (), disk) => (.ok (), { workspace with disk })
      | (.error .nullCharacter, disk) => (.error (.mishap .nullCharacter), { workspace with disk })
      | (.error (.disk fault), disk) =>
        (.error (.refused (.unwritten artifact.kind target fault.reason [])),
          { workspace with disk }) := by
  simp only [write, exec_bind, WorkspaceAction.exec_attempt, WorkspaceAction.exec_onDisk]
  cases exec (DiskAction.writeWhole target artifact.content) workspace.disk with
  | mk result disk =>
    cases result with
    | ok => rfl
    | error fault => cases fault <;> rfl

theorem exec_create (root : Path) (artifact : Artifact) (workspace : Workspace) :
    exec (create root artifact) workspace =
      match workspace.disk.look (artifact.target root) with
      | .error fault => (.error (.mishap (.disk fault)), workspace)
      | .ok (some _) =>
        (.error (.refused (.alreadyExists artifact.kind (artifact.target root) [])), workspace)
      | .ok none =>
        match exec (DiskAction.writeWhole (artifact.target root) artifact.content)
            workspace.disk with
        | (.ok (), disk) =>
          (.ok (artifact.target root), { workspace with disk }.reporting
            [Console.success ("Created " ++ artifact.kind ++ ": " ++ artifact.pathText)])
        | (.error .nullCharacter, disk) =>
          (.error (.mishap .nullCharacter), { workspace with disk })
        | (.error (.disk fault), disk) =>
          (.error (.refused (.unwritten artifact.kind (artifact.target root) fault.reason [])),
            { workspace with disk }) := by
  simp only [create, exec_bind, exec_isThere]
  cases workspace.disk.look (artifact.target root) with
  | error fault => rfl
  | ok seen =>
    cases seen with
    | some item => rfl
    | none =>
      simp only [Except.map, Except.mapError, Option.isSome_none, Bool.false_eq_true, if_false,
        exec_bind, exec_write]
      cases exec (DiskAction.writeWhole (artifact.target root) artifact.content)
          workspace.disk with
      | mk result disk =>
        cases result with
        | ok => rfl
        | error fault => cases fault <;> rfl

theorem create_cases {artifact : Artifact} (sound : workspace.disk.Sound)
    (rooted : workspace.disk.IsRoot root base) (plain : ".." ∉ artifact.parts) :
    (∃ new, exec (create root artifact) workspace = (.ok (artifact.target root), new) ∧
      Makes workspace new root base [artifact]) ∨
    ∃ failure new, exec (create root artifact) workspace = (.error failure, new) ∧
      Makes workspace new root base [] ∧ FailsAt root artifact [] new.disk failure := by
  rw [exec_create]
  cases looked : workspace.disk.look (artifact.target root) with
  | error fault =>
    exact .inr ⟨_, workspace, rfl, .refl workspace root base, .unseen looked⟩
  | ok seen =>
    cases seen with
    | some item =>
      exact .inr ⟨_, workspace, rfl, .refl workspace root base, .there looked⟩
    | none =>
      rcases Disk.gains_writeWhole sound rooted plain looked artifact.content with
        ⟨fault, disk, ran, gains, unnameable⟩ | ⟨disk, ran, gains, there⟩
      · rw [Artifact.target, ran]
        have makes : Makes workspace { workspace with disk } root base [] :=
          ⟨gains, nofun, rfl, (List.append_nil _).symm⟩
        cases fault with
        | disk fault => exact .inr ⟨_, _, rfl, makes, .unwritten fault⟩
        | nullCharacter => exact .inr ⟨_, _, rfl, makes, .unnameable (unnameable rfl)⟩
      · rw [Artifact.target, ran]
        exact .inl ⟨_, rfl, gains, List.forall_mem_singleton.2 there, rfl, rfl⟩

/-! ## All files -/

theorem exec_createAfter_cons (root : Path) (written : List Path) (artifact : Artifact)
    (artifacts : List Artifact) (workspace : Workspace) :
    exec (createAfter root written (artifact :: artifacts)) workspace =
      match exec (create root artifact) workspace with
      | (.ok target, next) => exec (createAfter root (written ++ [target]) artifacts) next
      | (.error (.refused refusal), next) => (.error (.refused (refusal.after written)), next)
      | (.error (.mishap mishap), next) => (.error (.mishap mishap), next) := by
  simp only [createAfter, exec_bind, exec_tryCatch]
  cases exec (create root artifact) workspace with
  | mk result next =>
    cases result with
    | ok target => rfl
    | error failure => cases failure <;> rfl

theorem exec_createAfter_of_failed {artifact : Artifact} {failure : Failure} {next : Workspace}
    (ran : exec (create root artifact) workspace = (.error failure, next))
    (fails : FailsAt root artifact [] next.disk failure) (written : List Path)
    (artifacts : List Artifact) :
    ∃ final, exec (createAfter root written (artifact :: artifacts)) workspace =
      (.error final, next) ∧ FailsAt root artifact written next.disk final := by
  rw [exec_createAfter_cons, ran]
  cases fails with
  | there looked => exact ⟨_, rfl, .there looked⟩
  | unwritten fault => exact ⟨_, rfl, .unwritten fault⟩
  | unseen looked => exact ⟨_, rfl, .unseen looked⟩
  | unnameable null => exact ⟨_, rfl, .unnameable null⟩

theorem exists_makes_createAfter {artifacts : List Artifact} (sound : workspace.disk.Sound)
    (rooted : workspace.disk.IsRoot root base)
    (plain : ∀ artifact ∈ artifacts, ".." ∉ artifact.parts) (written : List Path) :
    ∃ made remaining final new, artifacts = made ++ remaining ∧
      exec (createAfter root written artifacts) workspace = (final, new) ∧
      Makes workspace new root base made ∧
      Ends root (written ++ made.map (Artifact.target root)) new.disk remaining final := by
  -- Each file that is made leaves a sound disk on which the root still leads below the base.
  induction artifacts generalizing workspace written with
  | nil =>
    exact ⟨[], [], .ok written, workspace, rfl, rfl, .refl workspace root base, by
      rw [List.map_nil, List.append_nil]
      exact .complete⟩
  | cons artifact artifacts ih =>
    obtain ⟨plainFirst, plainRest⟩ := List.forall_mem_cons.1 plain
    rcases create_cases sound rooted plainFirst with
      ⟨next, ran, makes⟩ | ⟨failure, next, ran, makes, fails⟩
    · obtain ⟨made, remaining, final, new, rfl, ranRest, makesRest, ends⟩ :=
        ih (makes.gains.sound sound) (makes.gains.isRoot rooted) plainRest
          (written ++ [artifact.target root])
      refine ⟨artifact :: made, remaining, final, new, rfl, ?_, makes.append makesRest, ?_⟩
      · rw [exec_createAfter_cons, ran]
        exact ranRest
      · rwa [List.append_assoc] at ends
    · obtain ⟨final, stopped, failsAfter⟩ := exec_createAfter_of_failed ran fails written artifacts
      refine ⟨[], artifact :: artifacts, .error final, next, rfl, stopped, makes, ?_⟩
      rw [List.map_nil, List.append_nil]
      exact .failed failsAfter

/-- Files are made up to the first that fails, whatever the faults of the disk. Everything else on
the disk stays, with no temporary file beside it. -/
theorem exists_makes_materialize {artifacts : List Artifact} (sound : workspace.disk.Sound)
    (rooted : workspace.disk.IsRoot root base)
    (checked : ∀ artifact ∈ artifacts, ∃ fields, Artifact.ofFields fields = .ok artifact) :
    ∃ made remaining final new, artifacts = made ++ remaining ∧
      exec (materialize root false artifacts) workspace = (final, new) ∧
      Makes workspace new root base made ∧
      Ends root (made.map (Artifact.target root)) new.disk remaining final := by
  refine exists_makes_createAfter sound rooted (fun artifact member => ?_) []
  obtain ⟨fields, accepted⟩ := checked artifact member
  exact Artifact.plain_of_ofFields accepted

theorem exists_makes_materialize_of_full_disk :
    ∃ made remaining final new,
      [⟨["A.php"], "<?php", "job"⟩, ⟨["B.php"], "<?php", "job"⟩] = made ++ remaining ∧
      exec (materialize ⟨.relative, []⟩ false
          [⟨["A.php"], "<?php", "job"⟩, ⟨["B.php"], "<?php", "job"⟩])
        (.start ⟨.bare, [], 0o022,
          ⟨.quiet, .failAfter 1 ⟨some 28, "No space left on device"⟩, .quiet⟩⟩) = (final, new) ∧
      Makes (.start ⟨.bare, [], 0o022,
          ⟨.quiet, .failAfter 1 ⟨some 28, "No space left on device"⟩, .quiet⟩⟩) new
        ⟨.relative, []⟩ [] made ∧
      Ends ⟨.relative, []⟩ (made.map (Artifact.target ⟨.relative, []⟩)) new.disk remaining final :=
  exists_makes_materialize ⟨Tree.sound_bare, rfl⟩ (Disk.isRoot_of_directory rfl rfl) (by
    intro artifact member
    simp only [List.mem_cons, List.not_mem_nil, or_false] at member
    rcases member with rfl | rfl
    · exact ⟨[("path", .text "A.php"), ("content", .text "<?php"), ("kind", .text "job")], rfl⟩
    · exact ⟨[("path", .text "B.php"), ("content", .text "<?php"), ("kind", .text "job")], rfl⟩)

end Scaffold.Generator
