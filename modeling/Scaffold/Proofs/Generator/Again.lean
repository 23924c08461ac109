import Scaffold.Proofs.Generator.DryRun
import Scaffold.Proofs.Generator.Mishap

/-!
# Runs that are made again

A run that exited with 0 leaves all that its checks, its settings and its provider looked at as it was,
and the file of its first artifact where it is looked for. So the same run is planned again as before
and is then refused, before anything is written or registered.
-/

set_option autoImplicit false

namespace Scaffold

namespace Workspace

/-- A workspace on whose disk no step is made to fail. -/
def undisturbed (workspace : Workspace) : Workspace :=
  { workspace with disk := { workspace.disk with injection := .quiet } }

/-- A workspace for an engine that has not read the settings. -/
def unread (workspace : Workspace) : Workspace :=
  { workspace with settings := none }

end Workspace

/-- A path that leads somewhere can be looked at. -/
theorem Disk.exists_look_of_placeOf {disk : Disk} {path : Path} {place : Place}
    (led : disk.placeOf path = .ok place) : ∃ seen, disk.look path = .ok seen := by
  cases named : path.hasNull with
  | true => exact ⟨none, by rw [look, named, if_pos rfl]⟩
  | false => exact ⟨_, look_of_placeOf named led⟩

namespace Generator

variable {root : Path} {base : Place} {spec : Spec} {invocation : Invocation}
  {workspace final last : Workspace} {settings : Settings} {artifact : Artifact}
  {artifacts : List Artifact}

/-! ## A file that is there -/

theorem exec_plan_of_isValid (valid : IsValid root spec invocation workspace)
    (loaded : exec (Settings.load root) workspace = (.ok settings, last))
    (provided : spec.provide (requestOf spec invocation settings) = .ok artifacts) :
    exec (plan root spec invocation) workspace =
      (.ok (requestOf spec invocation settings, artifacts), last) := by
  obtain ⟨checked, validated⟩ := exec_validate_of_isValid valid
  simp only [exec_plan, validated, loaded, provided]

/-- A run is refused if the file of the first artifact that it is to make is there. -/
theorem exec_run_of_there {item : Item} (valid : IsValid root spec invocation workspace)
    (loaded : exec (Settings.load root) workspace = (.ok settings, last))
    (provided : spec.provide (requestOf spec invocation settings) = .ok (artifact :: artifacts))
    (real : invocation.isDryRun = false)
    (there : last.disk.look (artifact.target root) = .ok (some item)) :
    exec (run root spec invocation) workspace = (.ok 1, last.reporting
      [refusalText (.alreadyExists artifact.kind (artifact.target root) [])]) := by
  have planned := exec_plan_of_isValid valid loaded provided
  have refused : exec (materialize root false (artifact :: artifacts)) last =
      (.error (.refused (.alreadyExists artifact.kind (artifact.target root) [])), last) := by
    have materialize_eq : materialize root false (artifact :: artifacts) =
        createAfter root [] (artifact :: artifacts) := rfl
    rw [materialize_eq, exec_createAfter_cons, exec_create, there]
    rfl
  simp only [exec_run, planned, isDryRun_requestOf, real, refused]
  rfl

/-! ## What a run leaves that exits with 0 -/

/-- Whether a run that is no dry run made artifacts with some settings, and what it left. -/
structure Accomplishes (root : Path) (base : Place) (spec : Spec) (invocation : Invocation)
    (workspace final : Workspace) (settings : Settings) (artifacts : List Artifact) : Prop where
  valid : IsValid root spec invocation workspace
  loaded : ∃ next, exec (Settings.load root) workspace = (.ok settings, next)
  provided : spec.provide (requestOf spec invocation settings) = .ok artifacts
  kept : final.settings = some settings
  seen : ∀ artifact ∈ artifacts, ∃ octets mode,
    final.disk.look (artifact.target root) = .ok (some (.file octets mode))
  extended : workspace.disk.Extends final.disk
    (fun place _ => ∃ artifact ∈ artifacts, place = base ++ artifact.parts)
    (EndsIn · compositionEnding)

theorem exists_accomplishes (known : spec ∈ catalogue) (sound : workspace.disk.Sound)
    (rooted : workspace.disk.IsRoot root base) (real : invocation.isDryRun = false)
    (ran : exec (run root spec invocation) workspace = (.ok 0, final)) :
    ∃ settings artifacts,
      Accomplishes root base spec invocation workspace final settings artifacts := by
  have plans := plans_plan root spec invocation workspace
  generalize planned : exec (plan root spec invocation) workspace = planning at plans
  cases plans with
  | invalid =>
    rw [exec_run_of_unplanned planned] at ran
    exact absurd ran (settled_ne _ _ _)
  | unsettled =>
    rw [exec_run_of_unplanned planned] at ran
    cases ran
  | unprovided =>
    rw [exec_run_of_unplanned planned] at ran
    cases ran
  | @planned settings artifacts next valid loaded provided =>
    have begun := (unwritten_of_exec_load loaded).extends
    have realizes := realizes_run known (begun.sound sound) (begun.isRoot rooted) real provided
      planned
    rw [ran] at realizes
    generalize ended : (Except.ok 0, final) = result at realizes
    cases realizes with
    | stopped => exact absurd ended.symm (settled_ne _ _ _)
    | unseen => cases ended
    | @completed finished disk texts makes extended =>
      cases ended
      refine ⟨settings, artifacts, valid, ⟨next, loaded⟩, provided, ?_, ?_, ?_⟩
      · exact makes.settings.trans (Settings.keeps_of_exec_load loaded)
      · intro artifact member
        obtain ⟨_, after, -, there, -⟩ := extended.exists_look_file (makes.seen artifact member)
        exact ⟨after, _, there⟩
      · refine ((begun.of_unchanged makes.extends).trans extended).imp ?_ ?_
        · rintro place octets (none | ⟨first, ⟨artifact, among, placed, -⟩, -⟩)
          · cases none
          · exact ⟨artifact, among, placed⟩
        · rintro place (none | ⟨-, led⟩)
          · cases none
          · exact Disk.endsIn_of_placeOf (endsIn_compositionFile root _) (by decide) led

namespace Accomplishes

/-- What was valid is so in every workspace that looks as the run left it. -/
theorem isValid {again : Workspace}
    (accomplishes : Accomplishes root base spec invocation workspace final settings artifacts)
    (same : ∀ path, again.disk.look path = final.disk.look path) :
    IsValid root spec invocation again where
  named := accomplishes.valid.named
  given := accomplishes.valid.given
  found needs :=
    (same _).trans (accomplishes.extended.look_directory (accomplishes.valid.found needs))

theorem exists_planned (accomplishes : Accomplishes root base spec invocation workspace final
    settings artifacts) :
    ∃ next, exec (plan root spec invocation) workspace =
      (.ok (requestOf spec invocation settings, artifacts), next) := by
  obtain ⟨next, loaded⟩ := accomplishes.loaded
  exact ⟨next, exec_plan_of_isValid accomplishes.valid loaded accomplishes.provided⟩

/-! ## The settings afterwards -/

/-- What the path of the settings ends in. -/
def settingsEnding : List Char := Settings.fileName.toList

theorem settingsFile_eq (root : Path) :
    Settings.file root = ⟨root.anchor, root.parts ++ [Settings.fileName]⟩ :=
  root.child_of_isPart ⟨by decide, by decide, by decide⟩

theorem not_endsIn_composition {disk : Disk} {place : Place}
    (led : disk.placeOf (Settings.file root) = .ok place) : ¬EndsIn place compositionEnding := by
  intro ends
  have endsInSettings : EndsIn (Settings.file root).parts settingsEnding :=
    Path.endsIn_child (by decide) (by decide) _ (List.nil_append _).symm
  exact ends.ne (Disk.endsIn_of_placeOf endsInSettings (by decide) led) (by decide) (by decide) rfl

/-- The settings are looked for beside an artifact that was made, so the disk can tell whether they
are there. -/
theorem exists_look_settings (known : spec ∈ catalogue)
    (accomplishes : Accomplishes root base spec invocation workspace final settings artifacts) :
    ∃ seen, final.disk.look (Settings.file root) = .ok seen := by
  have supplies := supplies_requestOf known invocation settings
  obtain ⟨artifact, others, rfl⟩ := List.exists_cons_of_ne_nil
    (artifacts_ne_nil known supplies accomplishes.provided)
  obtain ⟨octets, mode, seen⟩ := accomplishes.seen artifact List.mem_cons_self
  obtain ⟨rest, parts_eq⟩ :=
    exists_parts_of_provide known supplies accomplishes.provided artifact List.mem_cons_self
  obtain ⟨-, place, led, -⟩ := Disk.look_eq_ok_some_iff.1 seen
  obtain ⟨directory, above, below⟩ := Disk.exists_walk_of_append led
  have above : final.disk.placeOf ⟨root.anchor, root.parts⟩ = .ok directory := above
  rw [parts_eq, Disk.walk_cons_eq_ok_iff] at below
  have ledSettings : final.disk.placeOf (Settings.file root) =
      .ok (directory ++ [Settings.fileName]) := by
    rw [settingsFile_eq, Disk.placeOf_append above]
    exact Disk.walk_cons_eq_ok_iff.2 ⟨below.1, .inr ⟨by decide, by decide, rfl⟩⟩
  exact Disk.exists_look_of_placeOf ledSettings

/-- A file of settings is there after the run if and only if it was there before, with the same
octets. -/
theorem look_settings_iff (known : spec ∈ catalogue) (sound : workspace.disk.Sound)
    (rooted : workspace.disk.IsRoot root base)
    (accomplishes : Accomplishes root base spec invocation workspace final settings artifacts)
    {octets : ByteArray} {mode : Nat} :
    final.disk.look (Settings.file root) = .ok (some (.file octets mode)) ↔
      workspace.disk.look (Settings.file root) = .ok (some (.file octets mode)) := by
  have extended := accomplishes.extended
  constructor
  · intro found
    obtain ⟨named, place, led, present⟩ := Disk.look_eq_ok_some_iff.1 found
    have plain : ".." ∉ [Settings.fileName] := by decide
    have below := led
    rw [settingsFile_eq] at below
    obtain rfl := (extended.isRoot rooted).placeOf_eq plain below
    cases before : workspace.disk.tree.item? (base ++ [Settings.fileName]) with
    | none =>
      -- It would be an artifact, and those are all in the directory of sources.
      obtain ⟨-, artifact, member, place_eq⟩ := extended.new _ octets mode before present
      obtain ⟨rest, parts_eq⟩ := exists_parts_of_provide known
        (supplies_requestOf known invocation settings) accomplishes.provided artifact member
      rw [parts_eq, List.append_cancel_left_eq, List.cons.injEq] at place_eq
      exact absurd place_eq.1 (by decide)
    | some item =>
      have ledBefore := rooted.placeOf_of_item? sound extended.start extended.directory plain below
        before
      rw [← settingsFile_eq] at ledBefore
      cases item with
      | directory =>
        rw [extended.directory _ before] at present
        cases present
      | file octetsBefore modeBefore =>
        obtain ⟨after, presentAfter, same⟩ := extended.file _ _ _ before
        obtain rfl := same.resolve_right (not_endsIn_composition led)
        rw [presentAfter] at present
        cases present
        exact Disk.look_eq_ok_some_iff.2 ⟨named, _, ledBefore, before⟩
  · intro found
    obtain ⟨place, after, led, foundAfter, same⟩ := extended.exists_look_file found
    obtain rfl := same.resolve_right (not_endsIn_composition led)
    exact foundAfter

/-- An engine that has not read the settings finds the same as one that had not read them before the
run. -/
theorem exec_load_unread (known : spec ∈ catalogue) (sound : workspace.disk.Sound)
    (rooted : workspace.disk.IsRoot root base)
    (accomplishes : Accomplishes root base spec invocation workspace final settings artifacts)
    (fresh : workspace.settings = none) (quiet : workspace.disk.injection = .quiet) :
    ∃ warning, exec (Settings.load root) final.undisturbed.unread =
      (.ok settings, Settings.keeping settings warning final.undisturbed.unread) := by
  obtain ⟨next, loaded⟩ := accomplishes.loaded
  have same (octets : ByteArray) (mode : Nat) :
      final.disk.look (Settings.file root) = .ok (some (.file octets mode)) ↔
        workspace.disk.look (Settings.file root) = .ok (some (.file octets mode)) :=
    accomplishes.look_settings_iff known sound rooted
  by_cases isFile : ∃ octets mode,
      final.disk.look (Settings.file root) = .ok (some (.file octets mode))
  · obtain ⟨octets, mode, found⟩ := isFile
    have foundBefore := (same octets mode).1 found
    have foundAgain : final.undisturbed.unread.disk.look (Settings.file root) =
      .ok (some (.file octets mode)) := found
    have reading_eq : Settings.readingOf final.undisturbed.unread.disk root =
        Settings.readingOf workspace.disk root := by
      rw [Settings.readingOf, Settings.readingOf, DiskAction.textAt_of_look foundAgain rfl,
        DiskAction.textAt_of_look foundBefore (by rw [quiet]; rfl)]
    rw [Settings.exec_load_of_file fresh foundBefore] at loaded
    rw [Settings.exec_load_of_file rfl foundAgain, reading_eq]
    cases reading : Settings.readingOf workspace.disk root with
    | ok settings =>
      rw [reading] at loaded
      cases loaded
      exact ⟨none, rfl⟩
    | error fault =>
      rw [reading] at loaded
      cases fault with
      | scalar fault => cases loaded
      | settings fault =>
        cases loaded
        exact ⟨some (Settings.readWarning fault), rfl⟩
  · obtain ⟨seen, looked⟩ := accomplishes.exists_look_settings known
    have lookedAgain : final.undisturbed.unread.disk.look (Settings.file root) = .ok seen := looked
    rw [Settings.exec_load_of_no_file rfl lookedAgain
      fun octets mode there => isFile ⟨octets, mode, there ▸ looked⟩]
    cases lookedBefore : workspace.disk.look (Settings.file root) with
    | error fault =>
      rw [Settings.exec_load_of_unread fresh, lookedBefore] at loaded
      cases loaded
    | ok seenBefore =>
      rw [Settings.exec_load_of_no_file fresh lookedBefore fun octets mode there =>
        isFile ⟨octets, mode, (same octets mode).2 (there ▸ lookedBefore)⟩] at loaded
      cases loaded
      exact ⟨none, rfl⟩

end Accomplishes

/-! ## The same run again -/

/-- A run that is no dry run and exited with 0 is refused when it is made again, since its first
artifact is there. It exits with 1, prints so, and leaves the disk as it is, whether the same engine
makes it again or, after a run that nothing disturbed, another one. -/
theorem exec_run_again (known : spec ∈ catalogue) (sound : workspace.disk.Sound)
    (rooted : workspace.disk.IsRoot root base) (real : invocation.isDryRun = false)
    (ran : exec (run root spec invocation) workspace = (.ok 0, final)) :
    ∃ request artifact artifacts next,
      exec (plan root spec invocation) workspace = (.ok (request, artifact :: artifacts), next) ∧
      exec (run root spec invocation) final.undisturbed =
        (.ok 1, final.undisturbed.reporting
          [refusalText (.alreadyExists artifact.kind (artifact.target root) [])]) ∧
      (workspace.settings = none → workspace.disk.injection = .quiet →
        ∃ settings warning, exec (run root spec invocation) final.undisturbed.unread =
          (.ok 1, (Settings.keeping settings warning final.undisturbed.unread).reporting
            [refusalText (.alreadyExists artifact.kind (artifact.target root) [])])) := by
  obtain ⟨settings, artifacts, accomplishes⟩ := exists_accomplishes known sound rooted real ran
  obtain ⟨artifact, others, rfl⟩ := List.exists_cons_of_ne_nil
    (artifacts_ne_nil known (supplies_requestOf known invocation settings) accomplishes.provided)
  obtain ⟨octets, mode, seen⟩ := accomplishes.seen artifact List.mem_cons_self
  obtain ⟨next, planned⟩ := accomplishes.exists_planned
  refine ⟨_, artifact, others, next, planned, ?_, fun fresh quiet => ?_⟩
  · have kept : final.undisturbed.settings = some settings := accomplishes.kept
    exact exec_run_of_there (accomplishes.isValid fun _ => rfl) (Settings.exec_load_of_kept kept)
      accomplishes.provided real seen
  · obtain ⟨warning, loaded⟩ := accomplishes.exec_load_unread known sound rooted fresh quiet
    exact ⟨settings, warning,
      exec_run_of_there (accomplishes.isValid fun _ => rfl) loaded accomplishes.provided real seen⟩

theorem exec_run_again_addUser :
    controllerSpec ∈ catalogue ∧ shopWorkspace.disk.Sound ∧
      shopWorkspace.disk.IsRoot ⟨.relative, []⟩ [] ∧ addUser.isDryRun = false ∧
      shopWorkspace.settings = none ∧ shopWorkspace.disk.injection = .quiet ∧
      ∃ final, exec (run ⟨.relative, []⟩ controllerSpec addUser) shopWorkspace = (.ok 0, final) ∧
        ∃ (artifact : Artifact) (settings : Settings) (warning : Option String),
          exec (run ⟨.relative, []⟩ controllerSpec addUser) final.undisturbed =
            (.ok 1, final.undisturbed.reporting [refusalText
              (.alreadyExists artifact.kind (artifact.target ⟨.relative, []⟩) [])]) ∧
          exec (run ⟨.relative, []⟩ controllerSpec addUser) final.undisturbed.unread =
            (.ok 1, (Settings.keeping settings warning final.undisturbed.unread).reporting
              [refusalText
                (.alreadyExists artifact.kind (artifact.target ⟨.relative, []⟩) [])]) := by
  have rooted : shopWorkspace.disk.IsRoot ⟨.relative, []⟩ [] := Disk.isRoot_of_directory rfl rfl
  have exits : (exec (run ⟨.relative, []⟩ controllerSpec addUser) shopWorkspace).1.toOption =
      some 0 := by
    decide +kernel
  obtain ⟨final, ran⟩ := exists_exec_eq_of_toOption exits
  obtain ⟨request, artifact, artifacts, next, -, again, another⟩ :=
    exec_run_again controllerSpec_mem sound_shopWorkspace rooted rfl ran
  obtain ⟨settings, warning, anew⟩ := another rfl rfl
  exact ⟨controllerSpec_mem, sound_shopWorkspace, rooted, rfl, rfl, rfl, final, ran, artifact,
    settings, warning, again, anew⟩

end Generator

end Scaffold
