import Scaffold.Generator.Prepare
import Scaffold.Proofs.Generator.Modules
import Scaffold.Proofs.Settings.Store

/-!
# Requests that are prepared

Preparing a request first checks what is given, which only looks at the disk, and then asks for the
settings, once and only if all is valid. The request is a function of the invocation and of the
settings.
-/

set_option autoImplicit false

namespace Scaffold.Generator

variable {workspace : Workspace} {root : Path} {spec : Spec} {invocation : Invocation}

/-! ## What must be given -/

/-- The options that a need asks for. -/
def Need.options : Need → List String
  | .nothing => []
  | .module => ["module"]
  | .moduleAndEntity => ["module", "entity"]

/-- The options that must be given to a generator. -/
def Spec.mustBeGiven (spec : Spec) : List String :=
  spec.need.options ++ spec.required

/-- The parameters of some names, each what the words of an option join to. -/
def namedParams (options : Fields) (names : List String) : Fields :=
  names.map fun name => (name, .text (nameOf options name))

/-- The name that the first text given joins to. -/
def baseName (invocation : Invocation) : String :=
  Text.pascalCase (invocation.positional.headD "")

/-- The name of a request for an invocation. -/
def requestName (spec : Spec) (invocation : Invocation) : String :=
  Text.withSuffix (baseName invocation) spec.suffix

theorem requestName_ne_empty (named : baseName invocation ≠ "") :
    requestName spec invocation ≠ "" := by
  rw [requestName, Text.withSuffix]
  split
  · exact named
  · intro empty
    exact named (String.append_eq_empty_iff.1 empty).1

/-- Whether an invocation gives a generator all that it must be given, and a module that is there if
it asks for one. -/
structure IsValid (root : Path) (spec : Spec) (invocation : Invocation) (workspace : Workspace) :
    Prop where
  named : baseName invocation ≠ ""
  given : ∀ name ∈ spec.mustBeGiven, isGiven invocation.options name = true
  found : spec.need ≠ .nothing →
    LeadsToDirectory root workspace (nameOf invocation.options "module")

/-- The checks of an invocation, which give the name and the parameters that must be given. -/
def validate (root : Path) (spec : Spec) (invocation : Invocation) : Action (String × Fields) := do
  let name ← className spec invocation
  let needed ← neededParams root spec invocation.options
  let required ← requiredParams spec invocation.options
  return (name, needed ++ required)

/-! ## Single checks -/

theorem exec_className (spec : Spec) (invocation : Invocation) (workspace : Workspace) :
    exec (className spec invocation) workspace =
      if baseName invocation = "" then
        (.error (.refused (.missingName spec.kind spec.sample spec.usage)), workspace)
      else (.ok (requestName spec invocation), workspace) := by
  have className_eq : className spec invocation =
      if baseName invocation = "" then refuse (.missingName spec.kind spec.sample spec.usage)
      else pure (requestName spec invocation) := rfl
  rw [className_eq]
  split <;> rfl

theorem exec_requiredParams (spec : Spec) (options : Fields) (workspace : Workspace) :
    exec (requiredParams spec options) workspace =
      if ∀ name ∈ spec.required, isGiven options name = true then
        (.ok (namedParams options spec.required), workspace)
      else
        (.error (.refused (.missingParameters (spec.required.filter fun name => !isGiven options name)
          (usageOr (usageFor spec.command
            (" ".intercalate (spec.required.map Spec.requiredUsage))) (some spec.usage)))),
          workspace) := by
  have none_missing : (spec.required.filter fun name => !isGiven options name).isEmpty = true ↔
      ∀ name ∈ spec.required, isGiven options name = true := by
    simp [List.isEmpty_iff]
  unfold requiredParams requireParameters
  by_cases given : ∀ name ∈ spec.required, isGiven options name = true
  · rw [if_pos given, if_pos (none_missing.2 given)]
    rfl
  · rw [if_neg given, if_neg (none_missing.not.2 given)]
    rfl

/-! ## Steps that only look -/

/-- Whether steps leave the workspace as it is. -/
def OnlyLooks {α : Type} (action : Action α) : Prop :=
  ∀ workspace, (exec action workspace).2 = workspace

namespace OnlyLooks

variable {α β : Type}

theorem pure (value : α) : OnlyLooks (Pure.pure value : Action α) := fun _ => rfl

theorem refuse (refusal : Refusal) : OnlyLooks (Generator.refuse refusal : Action α) := fun _ => rfl

theorem bind {action : Action α} {next : α → Action β} (looks : OnlyLooks action)
    (looksNext : ∀ value, OnlyLooks (next value)) : OnlyLooks (action >>= next) := by
  intro workspace
  have left := looks workspace
  rw [exec_bind]
  cases ran : exec action workspace with
  | mk result after =>
    rw [ran] at left
    obtain rfl : after = workspace := left
    cases result with
    | error failure => rfl
    | ok value => exact looksNext value after

theorem map {action : Action α} (convert : α → β) (looks : OnlyLooks action) :
    OnlyLooks (convert <$> action) := by
  intro workspace
  have left := looks workspace
  rw [exec_map]
  cases ran : exec action workspace with
  | mk result after =>
    rw [ran] at left
    cases result <;> exact left

theorem listModules (root : Path) : OnlyLooks (Generator.listModules root) := by
  intro workspace
  rw [exec_listModules]
  cases workspace.disk.look (moduleRoot root) <;> rfl

theorem ensureModule (root : Path) (module : String) :
    OnlyLooks (Generator.ensureModule root module) := by
  intro workspace
  rw [exec_ensureModule]
  cases workspace.disk.look ((moduleRoot root).child module) with
  | error fault => rfl
  | ok seen =>
    dsimp only
    split
    · rfl
    · cases workspace.disk.look (moduleRoot root) <;> rfl

theorem resolveModule (root : Path) (command : String) (options : Fields)
    (usage : Option String) : OnlyLooks (Generator.resolveModule root command options usage) := by
  unfold Generator.resolveModule
  cases isGiven options "module" with
  | true => exact (ensureModule root _).bind fun _ => .pure _
  | false => exact (listModules root).bind fun _ => .refuse _

theorem resolveModuleAndEntity (root : Path) (command : String) (options : Fields) :
    OnlyLooks (Generator.resolveModuleAndEntity root command options) := by
  unfold Generator.resolveModuleAndEntity
  cases isGiven options "module" with
  | true =>
    cases isGiven options "entity" with
    | true => exact (ensureModule root _).bind fun _ => .pure _
    | false => exact fun _ => rfl
  | false => exact ((listModules root).map _).bind fun _ => .refuse _

theorem neededParams (root : Path) (spec : Spec) (options : Fields) :
    OnlyLooks (Generator.neededParams root spec options) := by
  unfold Generator.neededParams
  cases spec.need with
  | nothing => exact .pure _
  | module => exact (resolveModule root _ options _).bind fun _ => .pure _
  | moduleAndEntity => exact (resolveModuleAndEntity root _ options).bind fun _ => .pure _

theorem requiredParams (spec : Spec) (options : Fields) :
    OnlyLooks (Generator.requiredParams spec options) := by
  intro workspace
  rw [exec_requiredParams]
  split <;> rfl

theorem className (spec : Spec) (invocation : Invocation) :
    OnlyLooks (Generator.className spec invocation) := by
  intro workspace
  rw [exec_className]
  split <;> rfl

theorem validate (root : Path) (spec : Spec) (invocation : Invocation) :
    OnlyLooks (Generator.validate root spec invocation) :=
  (className spec invocation).bind fun _ =>
    (neededParams root spec _).bind fun _ => (requiredParams spec _).bind fun _ => .pure _

end OnlyLooks

/-! ## Invocations that pass the checks -/

theorem exec_neededParams_eq_ok_iff {options needed : Fields} {final : Workspace} :
    exec (neededParams root spec options) workspace = (.ok needed, final) ↔
      final = workspace ∧ (∀ name ∈ spec.need.options, isGiven options name = true) ∧
        (spec.need ≠ .nothing → LeadsToDirectory root workspace (nameOf options "module")) ∧
        needed = namedParams options spec.need.options := by
  unfold neededParams
  cases spec.need with
  | nothing =>
    simp only [exec_pure, Prod.mk.injEq, Except.ok.injEq]
    constructor
    · rintro ⟨rfl, rfl⟩
      exact ⟨rfl, nofun, fun something => absurd rfl something, rfl⟩
    · rintro ⟨rfl, -, -, rfl⟩
      exact ⟨rfl, rfl⟩
  | module =>
    simp only [exec_bind_eq_ok_iff, exec_resolveModule_eq_ok_iff, exec_pure, Prod.mk.injEq,
      Except.ok.injEq, Need.options, List.forall_mem_singleton]
    constructor
    · rintro ⟨module, middle, ⟨rfl, given, rfl, leads⟩, rfl, rfl⟩
      exact ⟨rfl, given, fun _ => leads, rfl⟩
    · rintro ⟨rfl, given, leads, rfl⟩
      exact ⟨_, _, ⟨rfl, given, rfl, leads nofun⟩, rfl, rfl⟩
  | moduleAndEntity =>
    simp only [exec_bind_eq_ok_iff, Prod.exists, exec_resolveModuleAndEntity_eq_ok_iff,
      exec_resolveModule_eq_ok_iff, exec_pure, Prod.mk.injEq, Except.ok.injEq, Need.options,
      List.forall_mem_cons]
    constructor
    · rintro ⟨module, entity, middle, ⟨entityGiven, rfl, rfl, given, rfl, leads⟩, rfl, rfl⟩
      exact ⟨rfl, ⟨given, entityGiven, nofun⟩, fun _ => leads, rfl⟩
    · rintro ⟨rfl, ⟨given, entityGiven, -⟩, leads, rfl⟩
      exact ⟨_, _, _, ⟨entityGiven, rfl, rfl, given, rfl, leads nofun⟩, rfl, rfl⟩

theorem exec_requiredParams_eq_ok_iff {options required : Fields} {final : Workspace} :
    exec (requiredParams spec options) workspace = (.ok required, final) ↔
      final = workspace ∧ (∀ name ∈ spec.required, isGiven options name = true) ∧
        required = namedParams options spec.required := by
  rw [exec_requiredParams]
  split
  · next given =>
    simp only [Prod.mk.injEq, Except.ok.injEq]
    constructor
    · rintro ⟨rfl, rfl⟩
      exact ⟨rfl, given, rfl⟩
    · rintro ⟨rfl, -, rfl⟩
      exact ⟨rfl, rfl⟩
  · next notGiven =>
    simp only [Prod.mk.injEq, reduceCtorEq, notGiven, false_and, and_false]

theorem exec_className_eq_ok_iff {name : String} {final : Workspace} :
    exec (className spec invocation) workspace = (.ok name, final) ↔
      final = workspace ∧ baseName invocation ≠ "" ∧ name = requestName spec invocation := by
  rw [exec_className]
  split
  · next unnamed => simp [unnamed]
  · next named =>
    simp only [Prod.mk.injEq, Except.ok.injEq, ne_eq, named, not_false_eq_true, true_and]
    constructor
    · rintro ⟨rfl, rfl⟩
      exact ⟨rfl, rfl⟩
    · rintro ⟨rfl, rfl⟩
      exact ⟨rfl, rfl⟩

theorem exec_validate_eq_ok_iff {checked : String × Fields} {final : Workspace} :
    exec (validate root spec invocation) workspace = (.ok checked, final) ↔
      final = workspace ∧ IsValid root spec invocation workspace ∧
        checked = (requestName spec invocation, namedParams invocation.options spec.mustBeGiven) := by
  have params_eq : namedParams invocation.options spec.mustBeGiven =
      namedParams invocation.options spec.need.options ++
        namedParams invocation.options spec.required :=
    List.map_append
  simp only [validate, exec_bind_eq_ok_iff, exec_className_eq_ok_iff, exec_neededParams_eq_ok_iff,
    exec_requiredParams_eq_ok_iff, exec_pure, Prod.mk.injEq, Except.ok.injEq, params_eq]
  constructor
  · rintro ⟨name, _, ⟨rfl, named, rfl⟩, needed, _, ⟨rfl, given, leads, rfl⟩, required, _,
      ⟨rfl, requiredGiven, rfl⟩, rfl, rfl⟩
    refine ⟨rfl, ⟨named, fun name member => ?_, leads⟩, rfl⟩
    rcases List.mem_append.1 member with member | member
    · exact given name member
    · exact requiredGiven name member
  · rintro ⟨rfl, valid, rfl⟩
    exact ⟨_, _, ⟨rfl, valid.named, rfl⟩, _, _,
      ⟨rfl, fun name member => valid.given name (List.mem_append_left _ member), valid.found, rfl⟩,
      _, _, ⟨rfl, fun name member => valid.given name (List.mem_append_right _ member), rfl⟩,
      rfl, rfl⟩

/-! ## From the settings to the request -/

theorem exec_stored {α : Type} (action : WorkspaceAction Settings.StoreFault α)
    (workspace : Workspace) :
    exec (stored action) workspace =
      match exec action workspace with
      | (.ok value, next) => (.ok value, next)
      | (.error (.disk fault), next) => (.error (.mishap (.disk fault)), next)
      | (.error (.scalar fault), next) => (.error (.mishap (.scalar fault)), next) := by
  simp only [stored, exec_bind, WorkspaceAction.exec_attempt]
  cases exec action workspace with
  | mk result next =>
    cases result with
    | ok value => rfl
    | error fault => cases fault <;> rfl

/-- The request for an invocation that is valid, with some settings in force. -/
def requestOf (spec : Spec) (invocation : Invocation) (settings : Settings) : Request where
  command := spec.command
  name := requestName spec invocation
  params := Keyed.ofList (namedParams invocation.options spec.mustBeGiven ++
    spec.options.map fun option => (option.1,
      Settings.optionValue (settings.valuesFor spec.command) invocation.options option.1 option.2))
  switches :=
    (Settings.switchValues (settings.valuesFor spec.command) invocation.options
      spec.switches).map fun switch => (switch.1, .truth switch.2)
  project := settings.project.toFields
  isDryRun := invocation.isDryRun

@[simp] theorem name_requestOf (spec : Spec) (invocation : Invocation) (settings : Settings) :
    (requestOf spec invocation settings).name = requestName spec invocation := rfl

@[simp] theorem isDryRun_requestOf (spec : Spec) (invocation : Invocation) (settings : Settings) :
    (requestOf spec invocation settings).isDryRun = invocation.isDryRun := rfl

theorem exec_resolveOption_of_kept {settings : Settings} {command name : String} {given : Fields}
    {builtIn : Value} (kept : workspace.settings = some settings) :
    exec (Settings.resolveOption root command given name builtIn) workspace =
      (.ok (Settings.optionValue (settings.valuesFor command) given name builtIn), workspace) := by
  unfold Settings.resolveOption Settings.optionValue
  cases given.get? name with
  | some value => rfl
  | none => simp [Settings.exec_load_of_kept kept]

theorem exec_optionParams_of_kept {settings : Settings} {given : Fields}
    (kept : workspace.settings = some settings) (options : Keyed String Value) :
    exec (optionParams root spec given options) workspace =
      (.ok (options.map fun option => (option.1,
        Settings.optionValue (settings.valuesFor spec.command) given option.1 option.2)),
        workspace) := by
  induction options with
  | nil => rfl
  | cons option options ih =>
    obtain ⟨name, builtIn⟩ := option
    simp only [optionParams, exec_bind, exec_stored, exec_resolveOption_of_kept kept, ih,
      exec_pure, List.map_cons]

/-- The request that the checked name and parameters make with the settings. -/
def complement (root : Path) (spec : Spec) (invocation : Invocation) (checked : String × Fields) :
    Action Request := do
  let switches ←
    stored (Settings.resolveSwitches root spec.command invocation.options spec.switches)
  let chosen ← optionParams root spec invocation.options spec.options
  let settings ← stored (Settings.load root)
  return {
    command := spec.command
    name := checked.1
    params := Keyed.ofList (checked.2 ++ chosen)
    switches := switches.map fun switch => (switch.1, .truth switch.2)
    project := settings.project.toFields
    isDryRun := invocation.isDryRun }

theorem prepare_eq (root : Path) (spec : Spec) (invocation : Invocation) :
    prepare root spec invocation =
      validate root spec invocation >>= complement root spec invocation := by
  simp only [prepare, validate, complement, bind_assoc, pure_bind]

/-- The settings are asked for first by the switches; all that follows finds them kept. -/
theorem exec_complement (root : Path) (spec : Spec) (invocation : Invocation)
    (workspace : Workspace) :
    exec (complement root spec invocation
        (requestName spec invocation, namedParams invocation.options spec.mustBeGiven)) workspace =
      match exec (stored (Settings.load root)) workspace with
      | (.error failure, final) => (.error failure, final)
      | (.ok settings, final) => (.ok (requestOf spec invocation settings), final) := by
  have loads := Settings.loads_load root workspace
  simp only [complement, exec_bind, exec_stored, Settings.resolveSwitches]
  generalize exec (Settings.load root) workspace = loaded at loads
  cases loads with
  | kept kept _ =>
    simp only [exec_pure, exec_optionParams_of_kept kept, Settings.exec_load_of_kept kept]
    rfl
  | unseen => rfl
  | scalar => rfl

/-- A request is prepared by the checks and then by asking for the settings. -/
theorem exec_prepare (root : Path) (spec : Spec) (invocation : Invocation)
    (workspace : Workspace) :
    exec (prepare root spec invocation) workspace =
      match exec (validate root spec invocation) workspace with
      | (.error failure, next) => (.error failure, next)
      | (.ok _, next) =>
        match exec (stored (Settings.load root)) next with
        | (.error failure, final) => (.error failure, final)
        | (.ok settings, final) => (.ok (requestOf spec invocation settings), final) := by
  rw [prepare_eq, exec_bind]
  cases checked : exec (validate root spec invocation) workspace with
  | mk result next =>
    cases result with
    | error failure => rfl
    | ok values =>
      obtain ⟨rfl, -, rfl⟩ := exec_validate_eq_ok_iff.1 checked
      exact exec_complement root spec invocation _

/-- A request is prepared just if all that is given is valid and the settings are loaded, and then it
is the one for the invocation with these settings. -/
theorem exec_prepare_eq_ok_iff {request : Request} {final : Workspace} :
    exec (prepare root spec invocation) workspace = (.ok request, final) ↔
      IsValid root spec invocation workspace ∧
        ∃ settings, exec (Settings.load root) workspace = (.ok settings, final) ∧
          request = requestOf spec invocation settings := by
  rw [exec_prepare]
  constructor
  · intro prepared
    cases checked : exec (validate root spec invocation) workspace with
    | mk result next =>
      rw [checked] at prepared
      cases result with
      | error failure => cases prepared
      | ok values =>
        obtain ⟨rfl, valid, -⟩ := exec_validate_eq_ok_iff.1 checked
        simp only [exec_stored] at prepared
        cases loaded : exec (Settings.load root) next with
        | mk result after =>
          rw [loaded] at prepared
          cases result with
          | ok settings =>
            cases prepared
            exact ⟨valid, settings, rfl, rfl⟩
          | error fault => cases fault <;> cases prepared
  · rintro ⟨valid, settings, loaded, rfl⟩
    rw [exec_validate_eq_ok_iff.2 ⟨rfl, valid, rfl⟩]
    simp only [exec_stored, loaded]

/-- A request that was prepared is the one for the invocation with some settings. -/
theorem exists_requestOf {request : Request} {next : Workspace}
    (prepared : exec (prepare root spec invocation) workspace = (.ok request, next)) :
    ∃ settings, request = requestOf spec invocation settings := by
  obtain ⟨-, settings, -, request_eq⟩ := exec_prepare_eq_ok_iff.1 prepared
  exact ⟨settings, request_eq⟩

end Scaffold.Generator
