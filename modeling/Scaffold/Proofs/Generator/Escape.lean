import Scaffold.Proofs.Generator.Mishap

/-!
# Mishaps that escape a run

A run exits with 0 or with 1 unless a mishap escapes it. It escapes if planning the run ends with it,
if a file cannot be made after those before it, or if the disk cannot tell at the end whether there is
a composition file.
-/

set_option autoImplicit false

namespace Scaffold

namespace Generator

variable {root : Path} {base : Place} {spec : Spec} {invocation : Invocation}
  {workspace : Workspace} {mishap : Mishap}

/-- How a mishap escapes a run: planning ends with it, a file cannot be made after others were made, or
it cannot be seen, once all files are made, whether there is a composition file. -/
inductive Escapes (root : Path) (spec : Spec) (invocation : Invocation) (workspace : Workspace) :
    Mishap → Prop where
  | unplanned {mishap : Mishap} : CannotPlan root spec invocation workspace mishap →
      Escapes root spec invocation workspace mishap
  | unmade {request : Request} {made remaining : List Artifact} {artifact : Artifact}
      {targets : List Path} {next halted : Workspace} {mishap : Mishap} :
      invocation.isDryRun = false →
      exec (plan root spec invocation) workspace =
        (.ok (request, made ++ artifact :: remaining), next) →
      exec (createAll root made) next = (.ok targets, halted) →
      CannotCreate root artifact halted.disk mishap →
      Escapes root spec invocation workspace mishap
  | unregistered {request : Request} {artifacts : List Artifact} {targets : List Path}
      {next finished : Workspace} : spec = controllerSpec → invocation.isDryRun = false →
      exec (plan root spec invocation) workspace = (.ok (request, artifacts), next) →
      exec (createAll root artifacts) next = (.ok targets, finished) →
      finished.disk.CannotSee (compositionFile root (nameOf invocation.options "module")) →
      Escapes root spec invocation workspace (.disk .nameTooLong)

/-- A mishap escapes planning, or the run is planned and no dry run. -/
theorem Escapes.cannotPlan_or_planned (escapes : Escapes root spec invocation workspace mishap) :
    CannotPlan root spec invocation workspace mishap ∨ invocation.isDryRun = false ∧
      ∃ planning next, exec (plan root spec invocation) workspace = (.ok planning, next) := by
  cases escapes with
  | unplanned cannot => exact .inl cannot
  | unmade real planned => exact .inr ⟨real, _, _, planned⟩
  | unregistered _ real planned => exact .inr ⟨real, _, _, planned⟩

theorem raises_settled_iff {failure : Failure} :
    (settled failure workspace).1 = .error (.mishap mishap) ↔ failure = .mishap mishap := by
  cases failure <;> simp [settled]

section Planned

variable {request : Request} {artifacts : List Artifact} {next made : Workspace}

theorem raises_run_of_stopped {failure : Failure}
    (planned : exec (plan root spec invocation) workspace = (.ok (request, artifacts), next))
    (stopped : exec (materialize root request.isDryRun artifacts) next = (.error failure, made)) :
    Raises (run root spec invocation) workspace mishap ↔
      Raises (materialize root request.isDryRun artifacts) next mishap := by
  unfold Raises
  simp only [exec_run, planned, stopped, raises_settled_iff, Except.error.injEq]

theorem raises_run_of_made {targets : List Path}
    (planned : exec (plan root spec invocation) workspace = (.ok (request, artifacts), next))
    (materialized : exec (materialize root request.isDryRun artifacts) next = (.ok targets, made)) :
    Raises (run root spec invocation) workspace mishap ↔
      Raises (complete root spec request) made mishap := by
  unfold Raises
  simp only [exec_run, planned, materialized]
  cases exec (complete root spec request) made with
  | mk result final => cases result <;> simp

end Planned

theorem raises_run_of_unplanned {failure : Failure} {next : Workspace}
    (unplanned : exec (plan root spec invocation) workspace = (.error failure, next)) :
    Raises (run root spec invocation) workspace mishap ↔
      Raises (plan root spec invocation) workspace mishap := by
  unfold Raises
  rw [exec_run_of_unplanned unplanned, raises_settled_iff, unplanned, Except.error.injEq]

theorem raises_complete_iff (known : spec ∈ catalogue) (settings : Settings)
    (sound : workspace.disk.Sound) (real : invocation.isDryRun = false) :
    Raises (complete root spec (requestOf spec invocation settings)) workspace mishap ↔
      mishap = .disk .nameTooLong ∧ spec = controllerSpec ∧
        workspace.disk.CannotSee (compositionFile root (nameOf invocation.options "module")) := by
  have completes := completes_complete root known invocation settings sound real
  unfold Raises
  generalize exec (complete root spec (requestOf spec invocation settings)) workspace = result
    at completes
  cases completes with
  | unseen isController looked =>
    obtain ⟨rfl, unseen⟩ := Disk.look_eq_error_iff.1 looked
    simp [isController, unseen, eq_comm]
  | done seen _ =>
    simp only [reduceCtorEq, false_iff, not_and]
    intro _ isController unseen
    obtain ⟨item, looked⟩ := seen isController
    exact Disk.not_cannotSee_of_look looked unseen

/-- What a planned run is to make has plain paths, on a disk that is as sound as before. -/
theorem exists_of_planned {request : Request} {artifacts : List Artifact} {next : Workspace}
    (known : spec ∈ catalogue) (sound : workspace.disk.Sound)
    (rooted : workspace.disk.IsRoot root base)
    (planned : exec (plan root spec invocation) workspace = (.ok (request, artifacts), next)) :
    (∃ settings, request = requestOf spec invocation settings) ∧
      (∀ artifact ∈ artifacts, ".." ∉ artifact.parts) ∧ next.disk.Sound ∧
      next.disk.IsRoot root base := by
  have plans := plans_plan root spec invocation workspace
  rw [planned] at plans
  have begun := plans.unwritten.extends
  cases plans with
  | @planned settings _ _ _ _ provided =>
    exact ⟨⟨settings, rfl⟩,
      plain_of_provide known (supplies_requestOf known invocation settings) provided,
      begun.sound sound, begun.isRoot rooted⟩

theorem sound_of_created {artifacts : List Artifact} {targets : List Path} {finished : Workspace}
    (sound : workspace.disk.Sound) (rooted : workspace.disk.IsRoot root base)
    (plain : ∀ artifact ∈ artifacts, ".." ∉ artifact.parts)
    (created : exec (createAll root artifacts) workspace = (.ok targets, finished)) :
    finished.disk.Sound := by
  obtain ⟨_, _, _, new, -, ran, makes, -⟩ := exists_makes_createAfter sound rooted plain []
  rw [createAll, ran] at created
  cases created
  exact makes.gains.sound sound

/-- A run that was planned raises no mishap of its planning. -/
theorem not_cannotPlan_of_planned {request : Request} {artifacts : List Artifact}
    {next : Workspace} (known : spec ∈ catalogue)
    (planned : exec (plan root spec invocation) workspace = (.ok (request, artifacts), next)) :
    ¬CannotPlan root spec invocation workspace mishap := by
  intro cannot
  have raises := (raises_plan_iff known).2 cannot
  rw [Raises, planned] at raises
  cases raises

/-- A dry run that was planned ends without a mishap. -/
theorem not_raises_run_of_dryRun {request : Request} {artifacts : List Artifact}
    {next : Workspace} (known : spec ∈ catalogue) (dry : invocation.isDryRun = true)
    (planned : exec (plan root spec invocation) workspace = (.ok (request, artifacts), next)) :
    ¬Raises (run root spec invocation) workspace mishap := by
  have plans := plans_plan root spec invocation workspace
  rw [planned] at plans
  cases plans with
  | planned valid loaded provided =>
    rw [Raises, exec_run_of_dryRun known dry planned]
    intro raises
    cases raises

/-- What a run raises that was planned and is to make files. -/
theorem raises_run_of_planned_iff {settings : Settings} {artifacts : List Artifact}
    {next : Workspace} (known : spec ∈ catalogue) (sound : next.disk.Sound)
    (rooted : next.disk.IsRoot root base) (plain : ∀ artifact ∈ artifacts, ".." ∉ artifact.parts)
    (real : invocation.isDryRun = false)
    (planned : exec (plan root spec invocation) workspace =
      (.ok (requestOf spec invocation settings, artifacts), next)) :
    Raises (run root spec invocation) workspace mishap ↔
      Raises (createAll root artifacts) next mishap ∨
        mishap = .disk .nameTooLong ∧ spec = controllerSpec ∧ ∃ targets finished,
          exec (createAll root artifacts) next = (.ok targets, finished) ∧
          finished.disk.CannotSee (compositionFile root (nameOf invocation.options "module")) := by
  have materialize_eq :
      materialize root (requestOf spec invocation settings).isDryRun artifacts =
        createAll root artifacts := by
    rw [isDryRun_requestOf, real]
    rfl
  cases created : exec (createAll root artifacts) next with
  | mk result made =>
    cases result with
    | error failure =>
      rw [raises_run_of_stopped planned (by rw [materialize_eq, created]), materialize_eq]
      simp
    | ok targets =>
      have soundMade := sound_of_created sound rooted plain created
      rw [raises_run_of_made planned (by rw [materialize_eq, created]),
        raises_complete_iff known settings soundMade real]
      simp [Raises, created]

/-- The mishaps of a run are exactly those that escape it. -/
theorem raises_run_iff (known : spec ∈ catalogue) (sound : workspace.disk.Sound)
    (rooted : workspace.disk.IsRoot root base) :
    Raises (run root spec invocation) workspace mishap ↔
      Escapes root spec invocation workspace mishap := by
  cases planned : exec (plan root spec invocation) workspace with
  | mk result next =>
    cases result with
    | error failure =>
      rw [raises_run_of_unplanned planned, raises_plan_iff known]
      constructor
      · exact .unplanned
      · intro escapes
        rcases escapes.cannotPlan_or_planned with cannot | ⟨-, _, _, plannedToo⟩
        · exact cannot
        · rw [planned] at plannedToo
          cases plannedToo
    | ok planning =>
      obtain ⟨request, artifacts⟩ := planning
      have unraised : ¬CannotPlan root spec invocation workspace mishap :=
        not_cannotPlan_of_planned known planned
      obtain ⟨⟨settings, rfl⟩, plain, soundNext, rootedNext⟩ :=
        exists_of_planned known sound rooted planned
      cases dry : invocation.isDryRun with
      | true =>
        refine iff_of_false (not_raises_run_of_dryRun known dry planned) ?_
        intro escapes
        rcases escapes.cannotPlan_or_planned with cannot | ⟨real, -⟩
        · exact unraised cannot
        · rw [dry] at real
          cases real
      | false =>
        rw [raises_run_of_planned_iff known soundNext rootedNext plain dry planned, createAll,
          raises_createAfter_iff soundNext rootedNext plain]
        constructor
        · rintro (⟨made, artifact, remaining, targets, halted, rfl, created, cannot⟩ |
            ⟨rfl, isController, targets, finished, created, unseen⟩)
          · exact .unmade dry planned created cannot
          · exact .unregistered isController dry planned created unseen
        · intro escapes
          cases escapes with
          | unplanned cannot => exact absurd cannot unraised
          | unmade _ plannedToo created cannot =>
            rw [planned] at plannedToo
            cases plannedToo
            exact .inl ⟨_, _, _, _, _, rfl, created, cannot⟩
          | unregistered isController _ plannedToo created unseen =>
            rw [planned] at plannedToo
            cases plannedToo
            exact .inr ⟨rfl, isController, _, _, created, unseen⟩

/-- A run exits with 0, exits with 1 or ends with a mishap. -/
theorem exec_run_cases (known : spec ∈ catalogue) (sound : workspace.disk.Sound)
    (rooted : workspace.disk.IsRoot root base) :
    (∃ code final, exec (run root spec invocation) workspace = (.ok code, final) ∧
        (code = 0 ∨ code = 1)) ∨
      ∃ mishap, Raises (run root spec invocation) workspace mishap := by
  have settles (failure : Failure) (next : Workspace)
      (ended : exec (run root spec invocation) workspace = settled failure next) :
      (∃ code final, exec (run root spec invocation) workspace = (.ok code, final) ∧
          (code = 0 ∨ code = 1)) ∨
        ∃ mishap, Raises (run root spec invocation) workspace mishap := by
    cases failure with
    | refused refusal => exact .inl ⟨1, _, ended, .inr rfl⟩
    | mishap mishap => exact .inr ⟨mishap, by rw [Raises, ended]; rfl⟩
  cases planned : exec (plan root spec invocation) workspace with
  | mk result next =>
    cases result with
    | error failure => exact settles failure next (exec_run_of_unplanned planned)
    | ok planning =>
      obtain ⟨request, artifacts⟩ := planning
      obtain ⟨-, -, soundNext, rootedNext⟩ := exists_of_planned known sound rooted planned
      have plans := plans_plan root spec invocation workspace
      rw [planned] at plans
      cases plans with
      | planned valid loaded provided =>
        cases dry : invocation.isDryRun with
        | true => exact .inl ⟨0, _, exec_run_of_dryRun known dry planned, .inl rfl⟩
        | false =>
          have realizes := realizes_run known soundNext rootedNext dry provided planned
          unfold Raises at settles ⊢
          generalize exec (run root spec invocation) workspace = result
            at realizes settles ⊢
          cases realizes with
          | stopped => exact settles _ _ rfl
          | unseen => exact .inr ⟨_, rfl⟩
          | completed => exact .inl ⟨0, _, rfl, .inl rfl⟩

/-- A run exits with 0 or with 1 if and only if no mishap escapes it, and it ends with exactly the
mishaps that do. -/
theorem exits_iff_nothing_escapes (known : spec ∈ catalogue) (sound : workspace.disk.Sound)
    (rooted : workspace.disk.IsRoot root base) (invocation : Invocation) :
    ((∃ code final, exec (run root spec invocation) workspace = (.ok code, final) ∧
        (code = 0 ∨ code = 1)) ↔
      ∀ mishap, ¬Escapes root spec invocation workspace mishap) ∧
    ∀ mishap, (exec (run root spec invocation) workspace).1 = .error (.mishap mishap) ↔
      Escapes root spec invocation workspace mishap := by
  have raises (mishap : Mishap) : Raises (run root spec invocation) workspace mishap ↔
      Escapes root spec invocation workspace mishap := raises_run_iff known sound rooted
  refine ⟨⟨?_, ?_⟩, raises⟩
  · rintro ⟨code, final, exits, -⟩ mishap escapes
    have raised := (raises mishap).2 escapes
    rw [Raises, exits] at raised
    cases raised
  · intro nothing
    rcases exec_run_cases known sound rooted with exits | ⟨mishap, raised⟩
    · exact exits
    · exact absurd ((raises mishap).1 raised) (nothing mishap)

theorem exits_iff_nothing_escapes_addUser :
    controllerSpec ∈ catalogue ∧ shopWorkspace.disk.Sound ∧
      shopWorkspace.disk.IsRoot ⟨.relative, []⟩ [] ∧
      ((∃ code final, exec (run ⟨.relative, []⟩ controllerSpec addUser) shopWorkspace =
            (.ok code, final) ∧ (code = 0 ∨ code = 1)) ↔
        ∀ mishap, ¬Escapes ⟨.relative, []⟩ controllerSpec addUser shopWorkspace mishap) ∧
      ∀ mishap, (exec (run ⟨.relative, []⟩ controllerSpec addUser) shopWorkspace).1 =
          .error (.mishap mishap) ↔
        Escapes ⟨.relative, []⟩ controllerSpec addUser shopWorkspace mishap := by
  have rooted : shopWorkspace.disk.IsRoot ⟨.relative, []⟩ [] := Disk.isRoot_of_directory rfl rfl
  exact ⟨controllerSpec_mem, sound_shopWorkspace, rooted,
    exits_iff_nothing_escapes controllerSpec_mem sound_shopWorkspace rooted addUser⟩

/-- The name of a module that no directory can have. -/
def longModule : String :=
  String.ofList (List.replicate 256 'A')

theorem toList_longModule : longModule.toList = List.replicate 256 'A' :=
  String.toList_ofList

theorem pascalCase_longModule : Text.pascalCase longModule = longModule := by
  have kept : Text.pascal (List.replicate 256 'A') = List.replicate 256 'A' := by decide +kernel
  rw [Text.pascalCase, toList_longModule, kept]
  rfl

theorem isGiven_longModule : isGiven [("module", .text longModule)] "module" = true := by
  have isGiven_eq : isGiven [("module", .text longModule)] "module" =
      !Text.isAllBlank longModule.toList := rfl
  rw [isGiven_eq, toList_longModule]
  decide +kernel

theorem isModuleName_longModule : IsModuleName longModule where
  filled := by decide +kernel
  visible := by decide +kernel
  single := by
    rw [toList_longModule]
    decide +kernel

/-- The disk cannot tell whether there is a module with too long a name. -/
theorem cannotSee_longModule :
    shopWorkspace.disk.CannotSee ((moduleRoot ⟨.relative, []⟩).child longModule) := by
  have up : longModule ≠ ".." := isModuleName_longModule.ne_parent
  have long : Disk.isLongName longModule = true := by decide +kernel
  have inRoot : shopWorkspace.disk.tree.item? ["src"] = some .directory := by decide +kernel
  have inSource : shopWorkspace.disk.tree.item? ["src", "presentation"] = some .directory := by
    decide +kernel
  have meets : Disk.MeetsLongName shopWorkspace.disk.tree [] ["src", "presentation", longModule] :=
    .down (Tree.item?_root _) (by decide) (by decide) (.down inRoot (by decide) (by decide)
      (.here inSource up long))
  have child_eq : (moduleRoot ⟨.relative, []⟩).child longModule =
      ⟨.relative, ["src", "presentation", longModule]⟩ :=
    isModuleName_longModule.child_eq _
  have unbroken : Path.hasNull ⟨.relative, ["src", "presentation", longModule]⟩ = false := by
    simp only [Path.hasNull, List.any_cons, toList_longModule]
    decide +kernel
  rw [child_eq]
  exact ⟨unbroken, meets⟩

/-- A mishap escapes a run that is given a module with too long a name. -/
theorem escapes_longModule : controllerSpec ∈ catalogue ∧
    (exec (run ⟨.relative, []⟩ controllerSpec ⟨["user"], [("module", .text longModule)]⟩)
      shopWorkspace).1 = .error (.mishap (.disk .nameTooLong)) := by
  have rooted : shopWorkspace.disk.IsRoot ⟨.relative, []⟩ [] := Disk.isRoot_of_directory rfl rfl
  have named : baseName ⟨["user"], [("module", .text longModule)]⟩ ≠ "" := by decide +kernel
  have module_eq : nameOf [("module", .text longModule)] "module" = longModule :=
    pascalCase_longModule
  have unseen : CannotSeeModule ⟨.relative, []⟩ shopWorkspace.disk
      (nameOf [("module", .text longModule)] "module") := by
    rw [module_eq]
    exact .inl cannotSee_longModule
  have given : ∀ name ∈ controllerSpec.need.options,
      isGiven [("module", .text longModule)] name = true :=
    List.forall_mem_singleton.2 isGiven_longModule
  have cannot : CannotCheck ⟨.relative, []⟩ controllerSpec [("module", .text longModule)]
      shopWorkspace.disk := ⟨by decide, .inl ⟨given, unseen⟩⟩
  exact ⟨controllerSpec_mem, (raises_run_iff controllerSpec_mem sound_shopWorkspace rooted).2
    (.unplanned (.unchecked named cannot))⟩

end Generator

end Scaffold
