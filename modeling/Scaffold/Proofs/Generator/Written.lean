import Scaffold.Proofs.Disk.Extends
import Scaffold.Proofs.Generator.Run

/-!
# Files that a run writes

A run writes the artifacts that were planned for it and hands at most one composition file over to be
rewritten. It writes no other file, wherever the root of the project is and whatever the run ends with.
-/

set_option autoImplicit false

namespace Scaffold.Generator

variable {root : Path} {spec : Spec} {invocation : Invocation} {workspace : Workspace}

/-! ## What is handed over -/

/-- A class that is to be registered in the file at a path. -/
structure Registration where
  path : Path
  className : String
  name : String
  deriving DecidableEq

/-- The registration that a request asks for. -/
def registration? (root : Path) (spec : Spec) (request : Request) : Option Registration :=
  if spec.registers && !request.isDryRun then
    match request.params.get? "module" with
    | some (.text module) =>
      some ⟨compositionFile root module, controllerClass module request.name, request.name⟩
    | _ => none
  else none

/-- A run that is completed with a registration registers exactly this one. -/
theorem exists_complete_eq {request : Request} {registration : Registration}
    (asked : registration? root spec request = some registration) :
    ∃ file, complete root spec request = (do
      let outcome ← registerFile registration.path registration.className registration.name
      reportOutcome file outcome
      advise spec request) := by
  unfold registration? at asked
  split at asked
  · next registers =>
    rw [Bool.and_eq_true, Bool.not_eq_true'] at registers
    split at asked
    · next module given =>
      cases asked
      refine ⟨moduleFile (Value.text module).display, ?_⟩
      simp only [complete, registers.1, if_true, registerRequest, moduleOf_eq given, pure_bind,
        registers.2, Bool.false_eq_true, if_false, bind_assoc]
    · cases asked
  · cases asked

/-- Only controllers are registered, each in the composition file of the module that is given. -/
theorem registration?_requestOf_eq_some_iff (known : spec ∈ catalogue) (settings : Settings)
    {registration : Registration} :
    registration? root spec (requestOf spec invocation settings) = some registration ↔
      spec = controllerSpec ∧ invocation.isDryRun = false ∧
        registration = ⟨compositionFile root (nameOf invocation.options "module"),
          controllerClass (nameOf invocation.options "module") (requestName spec invocation),
          requestName spec invocation⟩ := by
  unfold registration?
  rw [isDryRun_requestOf]
  cases registers : spec.registers with
  | false =>
    have other : spec ≠ controllerSpec := by
      rintro rfl
      cases registers
    simp [other]
  | true =>
    obtain rfl := eq_controllerSpec known registers
    rw [module_requestOf, name_requestOf]
    cases invocation.isDryRun <;> simp [eq_comm]

/-- Whether a run hands a class over to be registered. -/
def HandsOver (root : Path) (spec : Spec) (invocation : Invocation) (workspace : Workspace)
    (registration : Registration) : Prop :=
  ∃ request next, exec (generate root spec invocation) workspace = (.ok request, next) ∧
    registration? root spec request = some registration

/-- A request that was generated is one that was planned, and its artifacts were made. -/
theorem exists_plan_of_generate {request : Request} {made : Workspace}
    (generated : exec (generate root spec invocation) workspace = (.ok request, made)) :
    ∃ settings artifacts next targets, request = requestOf spec invocation settings ∧
      spec.provide (requestOf spec invocation settings) = .ok artifacts ∧
      exec (plan root spec invocation) workspace =
        (.ok (requestOf spec invocation settings, artifacts), next) ∧
      exec (materialize root invocation.isDryRun artifacts) next = (.ok targets, made) := by
  rw [generate_eq] at generated
  obtain ⟨⟨request, artifacts⟩, next, planned, generated⟩ := exec_bind_eq_ok_iff.1 generated
  obtain ⟨targets, final, materialized, ended⟩ := exec_bind_eq_ok_iff.1 generated
  cases ended
  have plans := plans_plan root spec invocation workspace
  rw [planned] at plans
  cases plans with
  | @planned settings _ _ valid loaded provided =>
    exact ⟨settings, artifacts, next, targets, rfl, provided, planned, materialized⟩

theorem handsOver_iff (known : spec ∈ catalogue) {registration : Registration} :
    HandsOver root spec invocation workspace registration ↔
      spec = controllerSpec ∧ invocation.isDryRun = false ∧
        registration = ⟨compositionFile root (nameOf invocation.options "module"),
          controllerClass (nameOf invocation.options "module") (requestName spec invocation),
          requestName spec invocation⟩ ∧
        ∃ request next, exec (generate root spec invocation) workspace = (.ok request, next) := by
  constructor
  · rintro ⟨request, next, generated, asked⟩
    obtain ⟨settings, -, -, -, rfl, -⟩ := exists_plan_of_generate generated
    obtain ⟨isController, real, same⟩ := (registration?_requestOf_eq_some_iff known settings).1 asked
    exact ⟨isController, real, same, _, next, generated⟩
  · rintro ⟨isController, real, same, request, next, generated⟩
    obtain ⟨settings, -, -, -, rfl, -⟩ := exists_plan_of_generate generated
    exact ⟨_, next, generated,
      (registration?_requestOf_eq_some_iff known settings).2 ⟨isController, real, same⟩⟩

/-! ## What is written -/

/-- What a run writes: the artifacts of its plan, and anything in the file that a registration is
handed over for. -/
inductive IsWritten (root : Path) (spec : Spec) (invocation : Invocation) (workspace : Workspace) :
    Path → ByteArray → Prop where
  | artifact {request : Request} {artifacts : List Artifact} {artifact : Artifact}
      {next : Workspace} :
      exec (plan root spec invocation) workspace = (.ok (request, artifacts), next) →
      artifact ∈ artifacts →
      IsWritten root spec invocation workspace (artifact.target root)
        (Text.encode artifact.content)
  | composition {path : Path} {className name : String} {octets : ByteArray} :
      HandsOver root spec invocation workspace ⟨path, className, name⟩ →
      IsWritten root spec invocation workspace path octets

theorem writesOnly_create (root : Path) (artifact : Artifact) (sound : workspace.disk.Sound) :
    workspace.disk.WritesOnly (exec (create root artifact) workspace).2.disk
      fun path octets => path = artifact.target root ∧ octets = Text.encode artifact.content := by
  have wrote := (DiskAction.wrote_writeWhole sound (artifact.target root) artifact.content).writesOnly
  rw [exec_create]
  cases workspace.disk.look (artifact.target root) with
  | error fault => exact .refl _ _
  | ok seen =>
    cases seen with
    | some item => exact .refl _ _
    | none =>
      dsimp only
      generalize exec (DiskAction.writeWhole (artifact.target root) artifact.content)
        workspace.disk = ended at wrote ⊢
      obtain ⟨result, disk⟩ := ended
      cases result with
      | ok => exact wrote
      | error fault => cases fault <;> exact wrote

theorem writesOnly_createAfter (root : Path) (written : List Path) (artifacts : List Artifact)
    (sound : workspace.disk.Sound) :
    workspace.disk.WritesOnly (exec (createAfter root written artifacts) workspace).2.disk
      fun path octets => ∃ artifact ∈ artifacts,
        path = artifact.target root ∧ octets = Text.encode artifact.content := by
  induction artifacts generalizing workspace written with
  | nil => exact .refl _ _
  | cons artifact artifacts ih =>
    have first : workspace.disk.WritesOnly (exec (create root artifact) workspace).2.disk
        fun path octets => ∃ other ∈ artifact :: artifacts,
          path = other.target root ∧ octets = Text.encode other.content :=
      (writesOnly_create root artifact sound).imp
        fun path octets isWritten => ⟨artifact, List.mem_cons_self, isWritten⟩
    rw [exec_createAfter_cons]
    cases created : exec (create root artifact) workspace with
    | mk result next =>
      rw [created] at first
      cases result with
      | error failure => cases failure <;> exact first
      | ok target =>
        refine first.trans ((ih _ (first.sound sound)).imp fun path octets isWritten => ?_)
        obtain ⟨other, member, same⟩ := isWritten
        exact ⟨other, List.mem_cons_of_mem _ member, same⟩

theorem writesOnly_materialize (root : Path) (isDryRun : Bool) (artifacts : List Artifact)
    (sound : workspace.disk.Sound) :
    workspace.disk.WritesOnly (exec (materialize root isDryRun artifacts) workspace).2.disk
      fun path octets => ∃ artifact ∈ artifacts,
        path = artifact.target root ∧ octets = Text.encode artifact.content := by
  cases isDryRun with
  | true =>
    have materialize_eq : materialize root true artifacts = previewAll root artifacts := rfl
    rw [materialize_eq, exec_previewAll]
    exact .refl _ _
  | false => exact writesOnly_createAfter root [] artifacts sound

theorem writesOnly_complete (known : spec ∈ catalogue) (settings : Settings)
    (sound : workspace.disk.Sound) :
    workspace.disk.WritesOnly
      (exec (complete root spec (requestOf spec invocation settings)) workspace).2.disk
      fun path _ => spec = controllerSpec ∧ invocation.isDryRun = false ∧
        path = compositionFile root (nameOf invocation.options "module") := by
  cases dry : invocation.isDryRun with
  | true =>
    rw [exec_complete_of_dryRun known invocation settings dry]
    exact .refl _ _
  | false =>
    have completes := completes_complete root known invocation settings sound dry
    generalize exec (complete root spec (requestOf spec invocation settings)) workspace = ended
      at completes ⊢
    cases completes with
    | unseen => exact .refl _ _
    | done _ extended =>
      exact extended.writesOnly fun place isRewritten =>
        ⟨_, fun _ => ⟨isRewritten.1, rfl, rfl⟩, isRewritten.2⟩

/-- A run writes nothing but the artifacts of its plan and the composition file that it hands over. -/
theorem writesOnly_run (root : Path) (known : spec ∈ catalogue) (invocation : Invocation)
    (sound : workspace.disk.Sound) :
    workspace.disk.WritesOnly (exec (run root spec invocation) workspace).2.disk
      (IsWritten root spec invocation workspace) := by
  have plans := plans_plan root spec invocation workspace
  have begun : workspace.disk.WritesOnly (exec (plan root spec invocation) workspace).2.disk
      (IsWritten root spec invocation workspace) :=
    plans.unwritten.extends.writesOnly fun _ none => none.elim
  rw [exec_run]
  cases planned : exec (plan root spec invocation) workspace with
  | mk result next =>
    rw [planned] at plans begun
    cases plans with
    | invalid => rwa [disk_settled]
    | unsettled => rwa [disk_settled]
    | unprovided => rwa [disk_settled]
    | @planned settings artifacts _ valid loaded provided =>
      have made := (writesOnly_materialize root invocation.isDryRun artifacts
        (begun.sound sound)).imp fun path octets isWritten => by
          obtain ⟨artifact, member, rfl, rfl⟩ := isWritten
          exact IsWritten.artifact planned member
      have whole := begun.trans made
      simp only [isDryRun_requestOf]
      cases materialized : exec (materialize root invocation.isDryRun artifacts) next with
      | mk result done =>
        rw [materialized] at whole
        cases result with
        | error failure => rwa [disk_settled]
        | ok targets =>
          have generated : exec (generate root spec invocation) workspace =
              (.ok (requestOf spec invocation settings), done) := by
            rw [generate_eq, exec_bind, planned]
            simp only [exec_bind, isDryRun_requestOf, materialized, exec_pure]
          have completed : done.disk.WritesOnly
              (exec (complete root spec (requestOf spec invocation settings)) done).2.disk
              (IsWritten root spec invocation workspace) :=
            (writesOnly_complete known settings (whole.sound sound)).imp
              fun path octets isWritten => by
                obtain ⟨isController, real, path_eq⟩ := isWritten
                rw [path_eq]
                exact .composition
                  ((handsOver_iff known).2 ⟨isController, real, rfl, _, done, generated⟩)
          dsimp only
          cases ended : exec (complete root spec (requestOf spec invocation settings)) done with
          | mk result final =>
            rw [ended] at completed
            cases result <;> exact whole.trans completed

end Scaffold.Generator
