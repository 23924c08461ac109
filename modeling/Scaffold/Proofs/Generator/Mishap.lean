import Scaffold.Proofs.Generator.Run

/-!
# Mishaps

Which mishaps the stages of a run end with, and exactly when. The disk may be asked for a name that is
too long, of a module, of the settings or of a file to be made; a scalar of the settings may denote no
value; the path of a file may go up, or have a null character. Nothing else ends a stage with a mishap.
-/

set_option autoImplicit false

namespace Scaffold

namespace Disk

variable {disk : Disk} {path : Path}

theorem look_of_cannotSee (unseen : disk.CannotSee path) :
    disk.look path = .error .nameTooLong :=
  look_eq_error_iff.2 ⟨rfl, unseen⟩

theorem not_cannotSee_of_look {seen : Option Item} (looked : disk.look path = .ok seen) :
    ¬disk.CannotSee path := by
  intro unseen
  rw [look_of_cannotSee unseen] at looked
  cases looked

end Disk

namespace Generator

variable {α β : Type} {root : Path} {base : Place} {spec : Spec} {invocation : Invocation}
  {workspace : Workspace} {mishap : Mishap}

/-- Whether steps end with a mishap. -/
def Raises (action : Action α) (workspace : Workspace) (mishap : Mishap) : Prop :=
  (exec action workspace).1 = .error (.mishap mishap)

theorem raises_bind_iff {action : Action α} {next : α → Action β} :
    Raises (action >>= next) workspace mishap ↔
      Raises action workspace mishap ∨ ∃ value middle,
        exec action workspace = (.ok value, middle) ∧ Raises (next value) middle mishap :=
  fst_exec_bind_eq_error_iff

@[simp] theorem raises_map_iff {action : Action α} {convert : α → β} :
    Raises (convert <$> action) workspace mishap ↔ Raises action workspace mishap := by
  unfold Raises
  rw [exec_map]
  obtain ⟨result, next⟩ := exec action workspace
  cases result <;> simp

@[simp] theorem not_raises_pure (value : α) : ¬Raises (pure value) workspace mishap := nofun

@[simp] theorem not_raises_refuse (refusal : Refusal) :
    ¬Raises (refuse refusal : Action α) workspace mishap := nofun

/-! ## Checks -/

/-- Whether the disk cannot tell whether a module is there, or that it is not and which ones are. -/
def CannotSeeModule (root : Path) (disk : Disk) (module : String) : Prop :=
  disk.CannotSee ((moduleRoot root).child module) ∨
    disk.look ((moduleRoot root).child module) ≠ .ok (some .directory) ∧
      disk.CannotSee (moduleRoot root)

theorem raises_listModules_iff :
    Raises (listModules root) workspace mishap ↔
      mishap = .disk .nameTooLong ∧ workspace.disk.CannotSee (moduleRoot root) := by
  unfold Raises
  rw [exec_listModules]
  cases looked : workspace.disk.look (moduleRoot root) with
  | error fault =>
    obtain ⟨rfl, unseen⟩ := Disk.look_eq_error_iff.1 looked
    simp [unseen, eq_comm]
  | ok seen => simp [Disk.not_cannotSee_of_look looked]

theorem raises_ensureModule_iff {module : String} :
    Raises (ensureModule root module) workspace mishap ↔
      mishap = .disk .nameTooLong ∧ CannotSeeModule root workspace.disk module := by
  unfold Raises CannotSeeModule
  rw [exec_ensureModule]
  cases looked : workspace.disk.look ((moduleRoot root).child module) with
  | error fault =>
    obtain ⟨rfl, unseen⟩ := Disk.look_eq_error_iff.1 looked
    simp [unseen, eq_comm]
  | ok seen =>
    have seesModule := Disk.not_cannotSee_of_look looked
    have isDirectory : seen.any Item.isDirectory = true ↔ seen = some .directory := by
      cases seen with
      | none => simp
      | some item => cases item <;> simp [Item.isDirectory]
    simp only [isDirectory, seesModule, false_or, ne_eq, Except.ok.injEq]
    split
    · next there => simp [there]
    · next missing =>
      cases above : workspace.disk.look (moduleRoot root) with
      | error fault =>
        obtain ⟨rfl, unseen⟩ := Disk.look_eq_error_iff.1 above
        simp [missing, unseen, eq_comm]
      | ok seenAbove => simp [Disk.not_cannotSee_of_look above]

/-- Whether a generator cannot check the module that it needs: all that it needs is given and the disk
cannot tell about the module, or no module is given and the disk cannot tell which ones are there. -/
def CannotCheck (root : Path) (spec : Spec) (options : Fields) (disk : Disk) : Prop :=
  spec.need ≠ .nothing ∧
    ((∀ name ∈ spec.need.options, isGiven options name = true) ∧
        CannotSeeModule root disk (nameOf options "module") ∨
      isGiven options "module" = false ∧ disk.CannotSee (moduleRoot root))

theorem raises_resolveModule_iff {command : String} {options : Fields} {usage : Option String} :
    Raises (resolveModule root command options usage) workspace mishap ↔
      mishap = .disk .nameTooLong ∧
        (isGiven options "module" = true ∧
            CannotSeeModule root workspace.disk (nameOf options "module") ∨
          isGiven options "module" = false ∧ workspace.disk.CannotSee (moduleRoot root)) := by
  unfold resolveModule
  cases isGiven options "module" with
  | true => simp [raises_ensureModule_iff]
  | false => simp [raises_bind_iff, raises_listModules_iff]

theorem raises_resolveModuleAndEntity_iff {command : String} {options : Fields} :
    Raises (resolveModuleAndEntity root command options) workspace mishap ↔
      mishap = .disk .nameTooLong ∧
        ((isGiven options "module" = true ∧ isGiven options "entity" = true) ∧
            CannotSeeModule root workspace.disk (nameOf options "module") ∨
          isGiven options "module" = false ∧ workspace.disk.CannotSee (moduleRoot root)) := by
  unfold resolveModuleAndEntity
  cases isGiven options "module" with
  | true =>
    cases isGiven options "entity" with
    | true => simp [raises_ensureModule_iff]
    | false => simp
  | false => simp [raises_bind_iff, raises_listModules_iff]

theorem raises_neededParams_iff {options : Fields} :
    Raises (neededParams root spec options) workspace mishap ↔
      mishap = .disk .nameTooLong ∧ CannotCheck root spec options workspace.disk := by
  unfold neededParams CannotCheck
  cases spec.need with
  | nothing => simp
  | module => simp [raises_resolveModule_iff, Need.options]
  | moduleAndEntity => simp [raises_resolveModuleAndEntity_iff, Need.options]

theorem not_raises_requiredParams {options : Fields} :
    ¬Raises (requiredParams spec options) workspace mishap := by
  unfold Raises
  rw [exec_requiredParams]
  split <;> simp

theorem not_raises_className : ¬Raises (className spec invocation) workspace mishap := by
  unfold Raises
  rw [exec_className]
  split <;> simp

/-- The checks of an invocation end with a mishap only where the disk cannot tell about modules. -/
theorem raises_validate_iff :
    Raises (validate root spec invocation) workspace mishap ↔
      mishap = .disk .nameTooLong ∧ baseName invocation ≠ "" ∧
        CannotCheck root spec invocation.options workspace.disk := by
  simp only [validate, raises_bind_iff, not_raises_className, false_or, exec_className_eq_ok_iff,
    raises_neededParams_iff, not_raises_requiredParams, not_raises_pure, and_false, exists_false,
    or_false]
  constructor
  · rintro ⟨name, _, ⟨rfl, named, -⟩, rfl, cannot⟩
    exact ⟨rfl, named, cannot⟩
  · rintro ⟨rfl, named, cannot⟩
    exact ⟨_, _, ⟨rfl, named, rfl⟩, rfl, cannot⟩

/-! ## Settings -/

/-- Why asking for the settings of a project fails. -/
inductive CannotLoad (root : Path) (workspace : Workspace) : Settings.StoreFault → Prop where
  | unseen : workspace.settings = none → workspace.disk.CannotSee (Settings.file root) →
      CannotLoad root workspace (.disk .nameTooLong)
  | scalar {fault : Yaml.ScalarFault} {octets : ByteArray} {mode : Nat} :
      workspace.settings = none →
      workspace.disk.look (Settings.file root) = .ok (some (.file octets mode)) →
      Settings.readingOf workspace.disk root = .error (.scalar fault) →
      CannotLoad root workspace (.scalar fault)

theorem exec_load_eq_error_iff {fault : Settings.StoreFault} :
    (exec (Settings.load root) workspace).1 = .error fault ↔ CannotLoad root workspace fault := by
  constructor
  · intro failed
    have loads := Settings.loads_load root workspace
    generalize exec (Settings.load root) workspace = result at failed loads
    cases loads with
    | kept => cases failed
    | unseen unread looked =>
      cases failed
      obtain ⟨rfl, unseen⟩ := Disk.look_eq_error_iff.1 looked
      exact .unseen unread unseen
    | scalar unread found reading =>
      cases failed
      exact .scalar unread found reading
  · intro cannot
    cases cannot with
    | unseen unread unseen =>
      rw [Settings.exec_load_of_unread unread, Disk.look_of_cannotSee unseen]
    | scalar unread found reading =>
      rw [Settings.exec_load_of_unread unread, found, reading]
      rfl

/-! ## Paths that go up -/

/-- What is wrong when the files that a provider drafts for a request come to one whose path goes
up. -/
inductive DraftsGoUp (provide : Provider) (request : Request) : List Problem → Prop where
  | first {before after : List Draft} {draft : Draft} :
      Drafts provide request (before ++ draft :: after) →
      (∀ earlier ∈ before, ¬earlier.GoesUp) → draft.GoesUp →
      DraftsGoUp provide request draft.problems

theorem provide_eq_error_iff {request : Request} (known : spec ∈ catalogue)
    (supplies : request.Supplies spec) :
    spec.provide request = .error mishap ↔
      ∃ problems, mishap = .misshapen problems ∧ DraftsGoUp spec.provide request problems := by
  constructor
  · intro failed
    have provides := provides known supplies
    rw [failed] at provides
    cases provides with
    | goesUp drafts plain up => exact ⟨_, rfl, .first drafts plain up⟩
  · rintro ⟨_, rfl, @⟨before, after, draft, drafts, plain, up⟩⟩
    obtain ⟨boundBefore, boundRest⟩ := List.forall_mem_append.1 drafts.bound
    obtain ⟨belowBefore, belowRest⟩ := List.forall_mem_append.1 drafts.below
    have stopped : draft.artifact = .error (.misshapen draft.problems) := by
      rcases draft.artifact_cases (List.forall_mem_cons.1 boundRest).1
        (List.forall_mem_cons.1 belowRest).1 with ⟨content, -, notUp⟩ | ⟨failed, -⟩
      · exact absurd up notUp
      · exact failed
    rw [drafts.provide_eq, List.mapM_append, List.mapM_cons, stopped]
    rcases Draft.mapM_artifact_cases boundBefore belowBefore with
      ⟨artifacts, made, -⟩ | ⟨_, other, _, rfl, -, otherUp, -⟩
    · rw [made]
      rfl
    · exact absurd otherUp (plain other (by simp))

/-! ## Planning -/

/-- Why planning a run ends with a mishap. -/
inductive CannotPlan (root : Path) (spec : Spec) (invocation : Invocation) (workspace : Workspace) :
    Mishap → Prop where
  | unchecked : baseName invocation ≠ "" →
      CannotCheck root spec invocation.options workspace.disk →
      CannotPlan root spec invocation workspace (.disk .nameTooLong)
  | unsettled {fault : Settings.StoreFault} : IsValid root spec invocation workspace →
      CannotLoad root workspace fault →
      CannotPlan root spec invocation workspace (storeMishap fault)
  | goesUp {settings : Settings} {next : Workspace} {problems : List Problem} :
      IsValid root spec invocation workspace →
      exec (Settings.load root) workspace = (.ok settings, next) →
      DraftsGoUp spec.provide (requestOf spec invocation settings) problems →
      CannotPlan root spec invocation workspace (.misshapen problems)

theorem exec_validate_of_isValid (valid : IsValid root spec invocation workspace) :
    ∃ checked, exec (validate root spec invocation) workspace = (.ok checked, workspace) :=
  ⟨_, exec_validate_eq_ok_iff.2 ⟨rfl, valid, rfl⟩⟩

theorem raises_plan_iff (known : spec ∈ catalogue) :
    Raises (plan root spec invocation) workspace mishap ↔
      CannotPlan root spec invocation workspace mishap := by
  constructor
  · intro raises
    have plans := plans_plan root spec invocation workspace
    unfold Raises at raises
    generalize exec (plan root spec invocation) workspace = result at raises plans
    cases plans with
    | invalid checked =>
      cases raises
      have unchecked : Raises (validate root spec invocation) workspace mishap := by
        rw [Raises, checked]
      obtain ⟨rfl, named, cannot⟩ := raises_validate_iff.1 unchecked
      exact .unchecked named cannot
    | unsettled valid loaded =>
      cases raises
      exact .unsettled valid (exec_load_eq_error_iff.1 (by rw [loaded]))
    | unprovided valid loaded given =>
      cases raises
      obtain ⟨problems, rfl, up⟩ :=
        (provide_eq_error_iff known (supplies_requestOf known invocation _)).1 given
      exact .goesUp valid loaded up
    | planned => cases raises
  · intro cannot
    unfold Raises
    rw [exec_plan]
    cases cannot with
    | unchecked named cannot =>
      have raises : Raises (validate root spec invocation) workspace (.disk .nameTooLong) :=
        raises_validate_iff.2 ⟨rfl, named, cannot⟩
      obtain ⟨next, failed⟩ := exists_exec_eq raises
      rw [failed]
    | unsettled valid cannot =>
      obtain ⟨checked, validated⟩ := exec_validate_of_isValid valid
      obtain ⟨next, failed⟩ := exists_exec_eq (exec_load_eq_error_iff.2 cannot)
      simp only [validated, failed]
    | goesUp valid loaded up =>
      obtain ⟨checked, validated⟩ := exec_validate_of_isValid valid
      have failed := (provide_eq_error_iff known (supplies_requestOf known invocation _)).2
        ⟨_, rfl, up⟩
      rw [validated]
      simp only [loaded, failed]

/-! ## Files to be made -/

/-- Whether a file is to have a path that has a null character: one of the directories above it has
it, or all of them can be made. -/
def CannotName (disk : Disk) (path : Path) : Prop :=
  path.hasNull = true ∧
    (path.parent.hasNull = true ∨ (exec (DiskAction.makeDirectories path.parent) disk).1 = .ok ())

/-- Why making the file of an artifact ends with a mishap. -/
inductive CannotCreate (root : Path) (artifact : Artifact) (disk : Disk) : Mishap → Prop where
  | unseen : disk.CannotSee (artifact.target root) →
      CannotCreate root artifact disk (.disk .nameTooLong)
  | unnamed : CannotName disk (artifact.target root) →
      CannotCreate root artifact disk .nullCharacter

theorem fst_exec_writeWhole_eq_iff {disk : Disk} (sound : disk.Sound) (path : Path)
    (content : String) :
    (exec (DiskAction.writeWhole path content) disk).1 = .error .nullCharacter ↔
      CannotName disk path := by
  have wrote := DiskAction.wrote_writeWhole sound path content
  unfold CannotName
  rw [DiskAction.exec_writeWhole] at wrote ⊢
  cases made : exec (DiskAction.makeDirectories path.parent) disk with
  | mk result grown =>
    rw [made] at wrote
    cases result with
    | error fault =>
      constructor
      · intro failed
        cases failed
        have null : path.parent.hasNull = true :=
          DiskAction.hasNull_of_exec_makeDirectories (by rw [made])
        exact ⟨Path.hasNull_of_parent null, .inl null⟩
      · rintro ⟨-, null | done⟩
        · rw [DiskAction.makeDirectories, if_pos null] at made
          cases made
          rfl
        · cases done
    | ok =>
      cases named : path.hasNull with
      | true => simp
      | false =>
        simp only [named, Bool.false_eq_true, if_false, false_and, iff_false] at wrote ⊢
        intro failed
        generalize exec (DiskAction.writeBeside path (Text.encode content)) grown = result
          at wrote failed
        cases wrote with
        | failed _ _ unnamed =>
          cases failed
          rw [unnamed rfl] at named
          cases named
        | written => cases failed

theorem raises_create_iff {artifact : Artifact} (sound : workspace.disk.Sound) :
    Raises (create root artifact) workspace mishap ↔
      CannotCreate root artifact workspace.disk mishap := by
  have nameable := fst_exec_writeWhole_eq_iff sound (artifact.target root) artifact.content
  unfold Raises
  rw [exec_create]
  constructor
  · intro raises
    cases looked : workspace.disk.look (artifact.target root) with
    | error fault =>
      rw [looked] at raises
      cases raises
      obtain ⟨rfl, unseen⟩ := Disk.look_eq_error_iff.1 looked
      exact .unseen unseen
    | ok seen =>
      rw [looked] at raises
      cases seen with
      | some item => cases raises
      | none =>
        dsimp only at raises
        split at raises
        · cases raises
        · next disk failed =>
          cases raises
          rw [failed] at nameable
          exact .unnamed (nameable.1 rfl)
        · cases raises
  · intro cannot
    cases cannot with
    | unseen unseen => rw [Disk.look_of_cannotSee unseen]
    | unnamed unnamed =>
      have absent : workspace.disk.look (artifact.target root) = .ok none := by
        rw [Disk.look, if_pos unnamed.1]
      obtain ⟨disk, failed⟩ := exists_exec_eq (nameable.2 unnamed)
      simp only [absent, failed]

/-! ## All files to be made -/

/-- Making a file leaves a sound disk on which the root still leads below the base. -/
theorem keeps_of_created {artifact : Artifact} {target : Path} {next : Workspace}
    (sound : workspace.disk.Sound) (rooted : workspace.disk.IsRoot root base)
    (plain : ".." ∉ artifact.parts)
    (ran : exec (create root artifact) workspace = (.ok target, next)) :
    next.disk.Sound ∧ next.disk.IsRoot root base := by
  rcases create_cases sound rooted plain with ⟨new, ranAlso, makes⟩ | ⟨_, _, failed, -⟩
  · rw [ran] at ranAlso
    cases ranAlso
    exact ⟨makes.gains.sound sound, makes.gains.isRoot rooted⟩
  · rw [ran] at failed
    cases failed

/-- Making files ends with a mishap where it comes, after others, to a file that cannot be made. -/
theorem raises_createAfter_iff {artifacts : List Artifact} {written : List Path}
    (sound : workspace.disk.Sound) (rooted : workspace.disk.IsRoot root base)
    (plain : ∀ artifact ∈ artifacts, ".." ∉ artifact.parts) :
    Raises (createAfter root written artifacts) workspace mishap ↔
      ∃ made artifact remaining targets halted, artifacts = made ++ artifact :: remaining ∧
        exec (createAfter root written made) workspace = (.ok targets, halted) ∧
        CannotCreate root artifact halted.disk mishap := by
  induction artifacts generalizing workspace written with
  | nil => simp [Raises, createAfter]
  | cons artifact artifacts ih =>
    obtain ⟨plainFirst, plainRest⟩ := List.forall_mem_cons.1 plain
    have first : Raises (create root artifact) workspace mishap ↔
        CannotCreate root artifact workspace.disk mishap := raises_create_iff sound
    constructor
    · intro raises
      rw [Raises, exec_createAfter_cons] at raises
      cases ran : exec (create root artifact) workspace with
      | mk result next =>
        rw [ran] at raises
        cases result with
        | ok target =>
          obtain ⟨soundNext, rootedNext⟩ := keeps_of_created sound rooted plainFirst ran
          obtain ⟨made, other, remaining, targets, halted, rfl, ranMade, cannot⟩ :=
            (ih soundNext rootedNext plainRest).1 raises
          refine ⟨artifact :: made, other, remaining, targets, halted, rfl, ?_, cannot⟩
          rw [exec_createAfter_cons, ran]
          exact ranMade
        | error failure =>
          cases failure with
          | refused refusal => cases raises
          | mishap other =>
            cases raises
            refine ⟨[], artifact, artifacts, written, workspace, rfl, rfl, first.1 ?_⟩
            rw [Raises, ran]
    · rintro ⟨made, other, remaining, targets, halted, split, ranMade, cannot⟩
      rw [Raises, exec_createAfter_cons]
      cases made with
      | nil =>
        cases split
        cases ranMade
        obtain ⟨next, failed⟩ := exists_exec_eq (first.2 cannot)
        rw [failed]
      | cons first made =>
        cases split
        rw [exec_createAfter_cons] at ranMade
        cases ran : exec (create root artifact) workspace with
        | mk result next =>
          rw [ran] at ranMade
          cases result with
          | ok target =>
            obtain ⟨soundNext, rootedNext⟩ := keeps_of_created sound rooted plainFirst ran
            exact (ih soundNext rootedNext plainRest).2
              ⟨made, other, remaining, targets, halted, rfl, ranMade, cannot⟩
          | error failure => cases failure <;> cases ranMade

end Generator

end Scaffold
