import Scaffold.Generator.Run
import Scaffold.Proofs.Composition.Effect
import Scaffold.Proofs.Generator.Create
import Scaffold.Proofs.Generator.Provide

/-!
# The stages of a run

A run is planned, then its files are made, and then it is completed: a class is registered and advice
is given. Planning changes nothing on the disk. Completing a run fails only where the disk cannot
tell whether there is a composition file, and it touches no other file.
-/

set_option autoImplicit false

namespace Scaffold

theorem Workspace.Unwritten.extends {old new : Workspace} (unwritten : old.Unwritten new) :
    old.disk.Extends new.disk (fun _ _ => False) (fun _ => False) := by
  rw [unwritten]
  exact (Disk.Extends.refl old.disk).inject _

namespace Generator

variable {root : Path} {spec : Spec} {invocation : Invocation} {workspace : Workspace}
  {request : Request}

/-- The files that are made for artifacts are new, and no other file changes. -/
theorem Makes.extends {old new : Workspace} {base : Place} {made : List Artifact}
    (makes : Makes old new root base made) :
    old.disk.Extends new.disk
      (fun place octets => ∃ artifact ∈ made,
        place = base ++ artifact.parts ∧ octets = Text.encode artifact.content)
      (fun _ => False) := by
  refine makes.gains.extends.imp ?_ fun _ => id
  intro place octets member
  obtain ⟨artifact, among, same⟩ := List.mem_map.1 member
  cases same
  exact ⟨artifact, among, rfl, rfl⟩

/-! ## Planning -/

/-- The request for an invocation and the artifacts that are provided for it. -/
def plan (root : Path) (spec : Spec) (invocation : Invocation) :
    Action (Request × List Artifact) := do
  let request ← prepare root spec invocation
  let artifacts ← provided spec request
  return (request, artifacts)

theorem exec_provided (spec : Spec) (request : Request) (workspace : Workspace) :
    exec (provided spec request) workspace =
      ((spec.provide request).mapError .mishap, workspace) := by
  unfold provided
  cases spec.provide request <;> rfl

/-- The mishap that a fault of the stored settings is. -/
def storeMishap : Settings.StoreFault → Mishap
  | .disk fault => .disk fault
  | .scalar fault => .scalar fault

theorem exec_stored_load (root : Path) (workspace : Workspace) :
    exec (stored (Settings.load root)) workspace =
      ((exec (Settings.load root) workspace).1.mapError fun fault => .mishap (storeMishap fault),
        (exec (Settings.load root) workspace).2) := by
  rw [exec_stored]
  cases exec (Settings.load root) workspace with
  | mk result next =>
    cases result with
    | ok settings => rfl
    | error fault => cases fault <;> rfl

theorem exec_plan (root : Path) (spec : Spec) (invocation : Invocation) (workspace : Workspace) :
    exec (plan root spec invocation) workspace =
      match exec (validate root spec invocation) workspace with
      | (.error failure, next) => (.error failure, next)
      | (.ok _, next) =>
        match exec (Settings.load root) next with
        | (.error fault, final) => (.error (.mishap (storeMishap fault)), final)
        | (.ok settings, final) =>
          match spec.provide (requestOf spec invocation settings) with
          | .error mishap => (.error (.mishap mishap), final)
          | .ok artifacts => (.ok (requestOf spec invocation settings, artifacts), final) := by
  simp only [plan, exec_bind, exec_prepare, exec_stored_load, exec_provided]
  cases exec (validate root spec invocation) workspace with
  | mk result next =>
    cases result with
    | error failure => rfl
    | ok checked =>
      dsimp only
      cases exec (Settings.load root) next with
      | mk result final =>
        cases result with
        | error fault => rfl
        | ok settings =>
          simp only [Except.mapError]
          cases spec.provide (requestOf spec invocation settings) <;> rfl

/-- How planning ends: with what is given being invalid, with settings that cannot be read, with a
path that goes up, or with a request and its artifacts. -/
inductive Plans (root : Path) (spec : Spec) (invocation : Invocation) (workspace : Workspace) :
    Except Failure (Request × List Artifact) × Workspace → Prop where
  | invalid {failure : Failure} :
      exec (validate root spec invocation) workspace = (.error failure, workspace) →
      Plans root spec invocation workspace (.error failure, workspace)
  | unsettled {fault : Settings.StoreFault} {next : Workspace} :
      IsValid root spec invocation workspace →
      exec (Settings.load root) workspace = (.error fault, next) →
      Plans root spec invocation workspace (.error (.mishap (storeMishap fault)), next)
  | unprovided {settings : Settings} {mishap : Mishap} {next : Workspace} :
      IsValid root spec invocation workspace →
      exec (Settings.load root) workspace = (.ok settings, next) →
      spec.provide (requestOf spec invocation settings) = .error mishap →
      Plans root spec invocation workspace (.error (.mishap mishap), next)
  | planned {settings : Settings} {artifacts : List Artifact} {next : Workspace} :
      IsValid root spec invocation workspace →
      exec (Settings.load root) workspace = (.ok settings, next) →
      spec.provide (requestOf spec invocation settings) = .ok artifacts →
      Plans root spec invocation workspace
        (.ok (requestOf spec invocation settings, artifacts), next)

theorem plans_plan (root : Path) (spec : Spec) (invocation : Invocation) (workspace : Workspace) :
    Plans root spec invocation workspace (exec (plan root spec invocation) workspace) := by
  have looked := OnlyLooks.validate root spec invocation workspace
  rw [exec_plan]
  cases checked : exec (validate root spec invocation) workspace with
  | mk result next =>
    rw [checked] at looked
    obtain rfl : next = workspace := looked
    cases result with
    | error failure => exact .invalid checked
    | ok values =>
      obtain ⟨-, valid, -⟩ := exec_validate_eq_ok_iff.1 checked
      dsimp only
      cases loaded : exec (Settings.load root) next with
      | mk outcome final =>
        cases outcome with
        | error fault => exact .unsettled valid loaded
        | ok settings =>
          dsimp only
          cases given : spec.provide (requestOf spec invocation settings) with
          | error mishap => exact .unprovided valid loaded given
          | ok artifacts => exact .planned valid loaded given

theorem unwritten_of_exec_load {result : Except Settings.StoreFault Settings} {next : Workspace}
    (loaded : exec (Settings.load root) workspace = (result, next)) : workspace.Unwritten next := by
  have loads := Settings.loads_load root workspace
  rw [loaded] at loads
  exact loads.unwritten

theorem Plans.unwritten {result : Except Failure (Request × List Artifact) × Workspace}
    (plans : Plans root spec invocation workspace result) : workspace.Unwritten result.2 := by
  cases plans with
  | invalid => exact .refl workspace
  | unsettled _ loaded => exact unwritten_of_exec_load loaded
  | unprovided _ loaded => exact unwritten_of_exec_load loaded
  | planned _ loaded => exact unwritten_of_exec_load loaded

/-! ## From the plan to the exit code -/

theorem generate_eq (root : Path) (spec : Spec) (invocation : Invocation) :
    generate root spec invocation = do
      let (request, artifacts) ← plan root spec invocation
      let _ ← materialize root request.isDryRun artifacts
      return request := by
  simp only [generate, plan, bind_assoc, pure_bind]

/-- What is printed when a run is refused. -/
def refusalText (refusal : Refusal) : String :=
  Console.structuredError refusal.message refusal.suggestions refusal.usage

/-- How a run ends that fails before it is completed. -/
def settled (failure : Failure) (workspace : Workspace) : Except Failure Nat × Workspace :=
  match failure with
  | .refused refusal => (.ok 1, workspace.reporting [refusalText refusal])
  | .mishap mishap => (.error (.mishap mishap), workspace)

theorem disk_settled (failure : Failure) (workspace : Workspace) :
    (settled failure workspace).2.disk = workspace.disk := by
  cases failure <;> rfl

/-- A run is planned, its artifacts are made or shown, and it is completed. -/
theorem exec_run (root : Path) (spec : Spec) (invocation : Invocation) (workspace : Workspace) :
    exec (run root spec invocation) workspace =
      match exec (plan root spec invocation) workspace with
      | (.error failure, next) => settled failure next
      | (.ok (request, artifacts), next) =>
        match exec (materialize root request.isDryRun artifacts) next with
        | (.error failure, made) => settled failure made
        | (.ok _, made) =>
          match exec (complete root spec request) made with
          | (.error failure, final) => (.error failure, final)
          | (.ok _, final) => (.ok 0, final) := by
  simp only [run, exec_bind, WorkspaceAction.exec_attempt, generate_eq]
  cases exec (plan root spec invocation) workspace with
  | mk result next =>
    cases result with
    | error failure => cases failure <;> rfl
    | ok planned =>
      obtain ⟨request, artifacts⟩ := planned
      simp only [exec_pure]
      cases exec (materialize root request.isDryRun artifacts) next with
      | mk result made =>
        cases result with
        | error failure => cases failure <;> rfl
        | ok targets =>
          dsimp only
          rw [exec_bind]
          cases exec (complete root spec request) made with
          | mk result final => cases result <;> rfl

theorem exec_run_of_unplanned {failure : Failure} {next : Workspace}
    (unplanned : exec (plan root spec invocation) workspace = (.error failure, next)) :
    exec (run root spec invocation) workspace = settled failure next := by
  rw [exec_run, unplanned]

/-! ## Previews -/

/-- What a dry run prints for some artifacts: that nothing is made, a preview of each in turn, and how
to make them. -/
def previewTexts (artifacts : List Artifact) : List String :=
  [Console.warning "DRY RUN MODE - No files will be created", Console.line ""] ++
    artifacts.map (fun artifact => Console.preview (Preview.ofArtifact artifact)) ++
    [Console.note "Dry run complete. Run without --dry-run to create files."]

theorem exec_previewEach (root : Path) (artifacts : List Artifact) (workspace : Workspace) :
    exec (previewEach root artifacts) workspace =
      (.ok (artifacts.map (Artifact.target root)), workspace.reporting
        (artifacts.map fun artifact => Console.preview (Preview.ofArtifact artifact))) := by
  induction artifacts generalizing workspace with
  | nil => simp [previewEach]
  | cons artifact artifacts ih =>
    simp only [previewEach, exec_bind, WorkspaceAction.exec_report, ih, exec_pure,
      Workspace.reporting_reporting, List.map_cons, List.singleton_append]

theorem exec_previewAll (root : Path) (artifacts : List Artifact) (workspace : Workspace) :
    exec (previewAll root artifacts) workspace =
      (.ok (artifacts.map (Artifact.target root)), workspace.reporting (previewTexts artifacts)) := by
  simp only [previewAll, exec_bind, WorkspaceAction.exec_report, exec_previewEach, exec_pure,
    Workspace.reporting_reporting]
  rfl

/-! ## Advice -/

theorem exec_reportSteps (steps : List String) (workspace : Workspace) :
    exec (reportSteps steps) workspace =
      (.ok (), workspace.reporting (steps.map Console.line)) := by
  induction steps generalizing workspace with
  | nil => simp [reportSteps]
  | cons step steps ih =>
    rw [reportSteps, exec_bind, WorkspaceAction.exec_report]
    simp only [ih, Workspace.reporting_reporting, List.map_cons, List.singleton_append]

/-- The advice of a generator finds all that it asks for in a request that was prepared for it. -/
theorem exists_nextSteps (known : spec ∈ catalogue) (supplies : request.Supplies spec)
    {nextSteps : Request → Except MissingKey (List String)}
    (advises : spec.nextSteps = some nextSteps) : ∃ steps, nextSteps request = .ok steps := by
  simp only [catalogue, List.mem_cons, List.not_mem_nil, or_false] at known
  rcases known with rfl | rfl | rfl | rfl | rfl | rfl | rfl | rfl | rfl | rfl | rfl <;>
    cases advises
  case inr.inr.inr.inl =>
    obtain ⟨queue, chosen⟩ := supplies.chosen "queue" (by decide)
    have held : request.param "queue" = .ok queue := by rw [Request.param, chosen]
    exact ⟨_, by rw [jobSteps, held]; rfl⟩
  all_goals exact ⟨_, rfl⟩

theorem exists_exec_advise (known : spec ∈ catalogue) (supplies : request.Supplies spec)
    (workspace : Workspace) :
    ∃ texts, exec (advise spec request) workspace = (.ok (), workspace.reporting texts) ∧
      (request.isDryRun = true → texts = []) := by
  unfold advise
  cases advises : spec.nextSteps with
  | none => exact ⟨[], by simp, fun _ => rfl⟩
  | some nextSteps =>
    cases dry : request.isDryRun with
    | true => exact ⟨[], by simp, fun _ => rfl⟩
    | false =>
      obtain ⟨steps, given⟩ := exists_nextSteps known supplies advises
      cases steps with
      | nil => exact ⟨[], by simp [given], nofun⟩
      | cons step steps =>
        refine ⟨Console.line "" :: (step :: steps).map Console.line, ?_, nofun⟩
        simp only [given, Bool.not_false, if_true, exec_bind, WorkspaceAction.exec_report,
          exec_reportSteps, Workspace.reporting_reporting, List.singleton_append]

/-! ## Registration -/

theorem exec_reportOutcome (file : String) (outcome : Composition.Outcome) (workspace : Workspace) :
    ∃ texts, exec (reportOutcome file outcome) workspace = (.ok (), workspace.reporting texts) := by
  have failed (outcome : Composition.Outcome) (warning : String) :
      ∃ texts, exec (do
          WorkspaceAction.report warning
          if outcome.reason ≠ "" then
            WorkspaceAction.report (Console.note ("   " ++ outcome.reason)) : Action Unit) workspace =
        (.ok (), workspace.reporting texts) := by
    by_cases reasoned : outcome.reason = ""
    · exact ⟨[warning], by simp [reasoned]⟩
    · exact ⟨_, by
        simp only [ne_eq, reasoned, not_false_eq_true, if_true, exec_bind,
          WorkspaceAction.exec_report, Workspace.reporting_reporting]
        rfl⟩
  cases outcome with
  | registered => exact ⟨[Console.success ("Registered in " ++ file)], rfl⟩
  | alreadyRegistered => exact ⟨[Console.note ("Already registered in " ++ file)], rfl⟩
  | missingFile => exact failed .missingFile _
  | patternMismatch fault => exact failed (.patternMismatch fault) _
  | unwritable reason => exact failed (.unwritable reason) _

theorem moduleOf_eq {module : Value} (given : request.params.get? "module" = some module) :
    moduleOf request = pure module := by
  rw [moduleOf, Request.param, given]

/-- What a dry run says of a registration. -/
def registrationNote (name module : String) : String :=
  Console.note ("Would register " ++ name ++ " in " ++ moduleFile module)

theorem exec_registerRequest_of_dryRun {module : String}
    (given : request.params.get? "module" = some (.text module)) (dry : request.isDryRun = true) :
    exec (registerRequest root request) workspace =
      (.ok (), workspace.reporting [registrationNote request.name module]) := by
  simp only [registerRequest, moduleOf_eq given, pure_bind, dry, if_true,
    WorkspaceAction.exec_report]
  rfl

theorem exec_registerFile (path : Path) (className name : String) (workspace : Workspace) :
    exec (registerFile path className name) workspace =
      match exec (Composition.register path className name) workspace.disk with
      | (.ok outcome, disk) => (.ok outcome, { workspace with disk })
      | (.error (.disk fault), disk) => (.error (.mishap (.disk fault)), { workspace with disk })
      | (.error .nullCharacter, disk) =>
        (.error (.mishap .nullCharacter), { workspace with disk }) := by
  rw [registerFile, WorkspaceAction.exec_onDisk, exec_adapt]
  cases exec (Composition.register path className name) workspace.disk with
  | mk result disk =>
    cases result with
    | ok outcome => rfl
    | error fault => cases fault <;> rfl

/-- How a registration that is no dry run ends: the disk cannot tell whether the composition file is
there, or at most this file is rewritten. -/
theorem exec_registerRequest_cases (root : Path) {module : String} (sound : workspace.disk.Sound)
    (given : request.params.get? "module" = some (.text module)) (real : request.isDryRun = false) :
    (∃ fault, workspace.disk.look (compositionFile root module) = .error fault ∧
      exec (registerRequest root request) workspace =
        (.error (.mishap (.disk fault)), workspace)) ∨
    (∃ seen, workspace.disk.look (compositionFile root module) = .ok seen) ∧
      ∃ disk texts, exec (registerRequest root request) workspace =
          (.ok (), { workspace with disk }.reporting texts) ∧
        workspace.disk.Extends disk (fun _ _ => False)
          (fun place => workspace.disk.placeOf (compositionFile root module) = .ok place) := by
  have registers := Composition.exec_register_cases sound (compositionFile root module)
    (controllerClass module request.name) request.name
  simp only [registerRequest, moduleOf_eq given, pure_bind, real, Bool.false_eq_true, if_false,
    exec_bind, exec_registerFile]
  rcases registers with ⟨fault, unseen, ran⟩ | ⟨seen, outcome, disk, ran, extended⟩
  · rw [ran]
    exact .inl ⟨fault, unseen, rfl⟩
  · obtain ⟨texts, reported⟩ := exec_reportOutcome (moduleFile module) outcome
      { workspace with disk }
    rw [ran]
    exact .inr ⟨seen, disk, texts, reported, extended.imp (fun _ _ => id) fun _ => And.right⟩

/-- What the path of a composition file ends in. -/
def compositionEnding : List Char := "Module.php".toList

theorem endsIn_compositionFile (root : Path) (module : String) :
    EndsIn (compositionFile root module).parts compositionEnding :=
  Path.endsIn_child (by decide) (by decide) _ String.toList_append

/-- A composition file is none of the files of a controller. -/
theorem ne_compositionFile {disk : Disk} {module : String} {place base : Place}
    {settings : Settings} {artifacts : List Artifact} {artifact : Artifact}
    (led : disk.placeOf (compositionFile root module) = .ok place)
    (provided : provideController (requestOf controllerSpec invocation settings) = .ok artifacts)
    (member : artifact ∈ artifacts) : place ≠ base ++ artifact.parts :=
  (Disk.endsIn_of_placeOf (endsIn_compositionFile root module) (by decide) led).ne
    ((endsIn_controllerFile provided member).append_left base) (by decide) (by decide)

/-! ## Completing -/

/-- The only generator that registers what it makes is that of controllers. -/
theorem eq_controllerSpec (known : spec ∈ catalogue) (registers : spec.registers = true) :
    spec = controllerSpec := by
  simp only [catalogue, List.mem_cons, List.not_mem_nil, or_false] at known
  rcases known with rfl | rfl | rfl | rfl | rfl | rfl | rfl | rfl | rfl | rfl | rfl <;>
    first | rfl | cases registers

/-- How completing a run that is no dry run ends: the disk cannot tell whether the composition file of
a controller is there, or at most this file is rewritten. -/
inductive Completes (root : Path) (spec : Spec) (module : String) (workspace : Workspace) :
    Except Failure Unit × Workspace → Prop where
  | unseen {fault : DiskFault} : spec = controllerSpec →
      workspace.disk.look (compositionFile root module) = .error fault →
      Completes root spec module workspace (.error (.mishap (.disk fault)), workspace)
  | done {disk : Disk} {texts : List String} :
      (spec = controllerSpec →
        ∃ seen, workspace.disk.look (compositionFile root module) = .ok seen) →
      workspace.disk.Extends disk (fun _ _ => False)
        (fun place => spec = controllerSpec ∧
          workspace.disk.placeOf (compositionFile root module) = .ok place) →
      Completes root spec module workspace (.ok (), { workspace with disk }.reporting texts)

theorem exec_complete_of_registers (registers : spec.registers = true) (request : Request)
    (workspace : Workspace) :
    exec (complete root spec request) workspace =
      match exec (registerRequest root request) workspace with
      | (.error failure, next) => (.error failure, next)
      | (.ok _, next) => exec (advise spec request) next := by
  simp only [complete, registers, if_true, exec_bind]
  cases exec (registerRequest root request) workspace with
  | mk result next => cases result <;> rfl

theorem exec_complete_of_not_registers (registers : spec.registers = false) (request : Request)
    (workspace : Workspace) :
    exec (complete root spec request) workspace = exec (advise spec request) workspace := by
  simp only [complete, registers, Bool.false_eq_true, if_false]

theorem completes_complete (root : Path) (known : spec ∈ catalogue) (invocation : Invocation)
    (settings : Settings) (sound : workspace.disk.Sound) (real : invocation.isDryRun = false) :
    Completes root spec (nameOf invocation.options "module") workspace
      (exec (complete root spec (requestOf spec invocation settings)) workspace) := by
  have supplies := supplies_requestOf known invocation settings
  cases registers : spec.registers with
  | false =>
    have other : spec ≠ controllerSpec := by
      intro same
      rw [same] at registers
      cases registers
    obtain ⟨texts, advised, -⟩ := exists_exec_advise known supplies workspace
    rw [exec_complete_of_not_registers registers, advised]
    exact .done (fun same => absurd same other) ((Disk.Extends.refl _).imp nofun nofun)
  | true =>
    obtain rfl := eq_controllerSpec known registers
    rw [exec_complete_of_registers registers]
    rcases exec_registerRequest_cases root sound (module_requestOf invocation settings) real with
      ⟨fault, unseen, ran⟩ | ⟨seen, disk, texts, ran, extended⟩
    · rw [ran]
      exact .unseen rfl unseen
    · rw [ran]
      exact .done (fun _ => seen) (extended.imp (fun _ _ => id) fun _ led => ⟨rfl, led⟩)

/-- Completing a dry run only says what would be registered. -/
theorem exec_complete_of_dryRun (known : spec ∈ catalogue) (invocation : Invocation)
    (settings : Settings) (dry : invocation.isDryRun = true) (workspace : Workspace) :
    exec (complete root spec (requestOf spec invocation settings)) workspace =
      (.ok (), workspace.reporting (if spec.registers then
        [registrationNote (requestName spec invocation) (nameOf invocation.options "module")]
        else [])) := by
  have supplies := supplies_requestOf known invocation settings
  have silent (workspace : Workspace) :
      exec (advise spec (requestOf spec invocation settings)) workspace = (.ok (), workspace) := by
    obtain ⟨texts, advised, none⟩ := exists_exec_advise known supplies workspace
    rw [advised, none dry, Workspace.reporting_nil]
  cases registers : spec.registers with
  | false =>
    rw [exec_complete_of_not_registers registers, silent, if_neg Bool.false_ne_true,
      Workspace.reporting_nil]
  | true =>
    obtain rfl := eq_controllerSpec known registers
    rw [exec_complete_of_registers registers,
      exec_registerRequest_of_dryRun (module_requestOf invocation settings) dry, name_requestOf,
      if_pos rfl]
    exact silent _

/-- A dry run that was planned shows its artifacts and exits with 0. -/
theorem exec_run_of_dryRun {settings : Settings} {artifacts : List Artifact} {next : Workspace}
    (known : spec ∈ catalogue) (dry : invocation.isDryRun = true)
    (planned : exec (plan root spec invocation) workspace =
      (.ok (requestOf spec invocation settings, artifacts), next)) :
    exec (run root spec invocation) workspace =
      (.ok 0, next.reporting (previewTexts artifacts ++ if spec.registers then
        [registrationNote (requestName spec invocation) (nameOf invocation.options "module")]
        else [])) := by
  have materialized : exec (materialize root true artifacts) next =
      (.ok (artifacts.map (Artifact.target root)), next.reporting (previewTexts artifacts)) :=
    exec_previewAll root artifacts next
  simp only [exec_run, planned, isDryRun_requestOf, dry, materialized,
    exec_complete_of_dryRun known invocation settings dry, Workspace.reporting_reporting]

/-! ## Runs that make files -/

/-- How a run that is no dry run ends once it is planned: it stops at an artifact after it made those
before, it cannot tell whether there is a composition file, or it is completed. -/
inductive Realizes (root : Path) (base : Place) (spec : Spec) (module : String)
    (planned : Workspace) (artifacts : List Artifact) : Except Failure Nat × Workspace → Prop where
  | stopped {made remaining : List Artifact} {artifact : Artifact} {failure : Failure}
      {halted : Workspace} :
      artifacts = made ++ artifact :: remaining → Makes planned halted root base made →
      FailsAt root artifact (made.map (Artifact.target root)) halted.disk failure →
      Realizes root base spec module planned artifacts (settled failure halted)
  | unseen {halted : Workspace} {fault : DiskFault} :
      Makes planned halted root base artifacts → spec = controllerSpec →
      halted.disk.look (compositionFile root module) = .error fault →
      Realizes root base spec module planned artifacts (.error (.mishap (.disk fault)), halted)
  | completed {finished : Workspace} {disk : Disk} {texts : List String} :
      Makes planned finished root base artifacts →
      finished.disk.Extends disk (fun _ _ => False)
        (fun place => spec = controllerSpec ∧
          finished.disk.placeOf (compositionFile root module) = .ok place) →
      Realizes root base spec module planned artifacts
        (.ok 0, { finished with disk }.reporting texts)

theorem realizes_run {base : Place} {settings : Settings} {artifacts : List Artifact}
    {next : Workspace} (known : spec ∈ catalogue) (sound : next.disk.Sound)
    (rooted : next.disk.IsRoot root base) (real : invocation.isDryRun = false)
    (provided : spec.provide (requestOf spec invocation settings) = .ok artifacts)
    (planned : exec (plan root spec invocation) workspace =
      (.ok (requestOf spec invocation settings, artifacts), next)) :
    Realizes root base spec (nameOf invocation.options "module") next artifacts
      (exec (run root spec invocation) workspace) := by
  have supplies := supplies_requestOf known invocation settings
  obtain ⟨made, remaining, final, new, split, ran, makes, ends⟩ :=
    exists_makes_createAfter sound rooted (plain_of_provide known supplies provided) []
  have materialized : exec (materialize root false artifacts) next = (final, new) := ran
  simp only [exec_run, planned, isDryRun_requestOf, real, materialized]
  cases ends with
  | failed fails => exact .stopped split makes fails
  | complete =>
    rw [List.append_nil] at split
    subst split
    have completes := completes_complete root known invocation settings
      (makes.gains.sound sound) real
    dsimp only
    generalize exec (complete root spec (requestOf spec invocation settings)) new = completed
      at completes ⊢
    cases completes with
    | unseen isController unseen => exact .unseen makes isController unseen
    | done _ extended => exact .completed makes extended

end Generator

end Scaffold
