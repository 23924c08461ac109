import Scaffold.Proofs.Generator.Provide
import Scaffold.Proofs.Settings.Precedence

/-!
# The layers of a value, from the settings to the request

The values that are resolved for a generator, and those in the requests that are prepared for it,
are those of the layers. So two runs that agree on one name in each layer give it one value, whatever
else is given or set in either.
-/

set_option autoImplicit false

namespace Scaffold

/-- Whether the settings that a workspace keeps, if any, passed the checks. -/
def Workspace.KeepsValidated (workspace : Workspace) : Prop :=
  ∀ settings, workspace.settings = some settings → settings.IsValidated

namespace Settings

variable {root : Path} {workspace : Workspace} {settings : Settings} {command name : String}

/-! ## Settings that are loaded -/

/-- Settings that are loaded passed the checks, whether they are read or were kept. -/
theorem isValidated_of_exec_load {next : Workspace} (validated : workspace.KeepsValidated)
    (loaded : exec (load root) workspace = (.ok settings, next)) : settings.IsValidated := by
  cases kept : workspace.settings with
  | some held =>
    rw [exec_load_of_kept kept] at loaded
    cases loaded
    exact validated settings kept
  | none =>
    cases answers_of_exec_load kept loaded with
    | absent => exact isValidated_empty
    | valid _ holds => exact isValidated_of_holds holds
    | invalid => exact isValidated_empty

theorem keepsValidated_load (root : Path) (validated : workspace.KeepsValidated) :
    (exec (load root) workspace).2.KeepsValidated := by
  intro settings kept
  cases loaded : exec (load root) workspace with
  | mk result next =>
    rw [loaded] at kept
    cases result with
    | ok held =>
      obtain rfl : held = settings :=
        Option.some.inj ((keeps_of_exec_load loaded).symm.trans kept)
      exact isValidated_of_exec_load validated loaded
    | error fault =>
      have loads := loads_load root workspace
      rw [loaded] at loads
      cases loads with
      | unseen => exact validated settings kept
      | scalar unread =>
        rw [show workspace.settings = some settings from kept] at unread
        cases unread

/-! ## Values that are resolved -/

/-- Whether what is resolved in a workspace has the values of the layers of some settings. -/
structure Resolves (root : Path) (workspace : Workspace) (settings : Settings) : Prop where
  switches : ∀ command given names, ∃ values next,
    exec (resolveSwitches root command given names) workspace = (.ok values, next) ∧
      (Keyed.keys values).Nodup ∧
      ∀ name, Keyed.get? name values =
        if name ∈ names then some (settings.layeredSwitch command given name) else none
  option : ∀ command given name builtIn, ∃ next,
    exec (resolveOption root command given name builtIn) workspace =
      (.ok (settings.layeredOption command given name builtIn), next)

theorem IsValidated.get?_switchValues (validated : settings.IsValidated) (command : String)
    (given : Fields) (names : List String) (name : String) :
    Keyed.get? name (switchValues (settings.valuesFor command) given names) =
      if name ∈ names then some (settings.layeredSwitch command given name) else none := by
  rw [switchValues, Keyed.get?_ofList_map, validated.switchIsOn_eq]

theorem resolves_of_exec_load {next : Workspace} (validated : workspace.KeepsValidated)
    (loaded : exec (load root) workspace = (.ok settings, next)) :
    Resolves root workspace settings where
  switches command given names := by
    have valid := isValidated_of_exec_load validated loaded
    refine ⟨switchValues (settings.valuesFor command) given names, next, ?_,
      Keyed.nodup_keys_ofList _, valid.get?_switchValues command given names⟩
    simp only [resolveSwitches, exec_bind, loaded, exec_pure]
  option command given name builtIn := by
    have valid := isValidated_of_exec_load validated loaded
    rw [← valid.optionValue_eq]
    unfold resolveOption optionValue
    cases given.get? name with
    | some value => exact ⟨workspace, rfl⟩
    | none =>
      refine ⟨next, ?_⟩
      simp only [exec_bind, loaded, exec_pure, Option.getD_none]

/-! ## Two runs -/

/-- Whether two settings and two maps of options have the same under one name in every layer. -/
structure AgreeAt (command name : String) (first second : Settings) (given other : Fields) :
    Prop where
  given : given.get? name = other.get? name
  overrides : first.override? command name = second.override? command name
  defaults : first.defaults.get? name = second.defaults.get? name

namespace AgreeAt

variable {first second : Settings} {given other : Fields}

theorem layeredSwitch_eq (agree : AgreeAt command name first second given other) :
    first.layeredSwitch command given name = second.layeredSwitch command other name := by
  rw [layeredSwitch, layeredSwitch, agree.given, agree.overrides, agree.defaults]

theorem layeredOption_eq (agree : AgreeAt command name first second given other)
    (builtIn : Value) : first.layeredOption command given name builtIn =
      second.layeredOption command other name builtIn := by
  rw [layeredOption, layeredOption, agree.given, agree.overrides, agree.defaults]

end AgreeAt

end Settings

namespace Generator

variable {root : Path} {workspace : Workspace} {spec : Spec} {invocation : Invocation}

/-! ## Values in requests -/

/-- Whether a request for a generator has the switches and options of the layers of settings. -/
structure Request.Takes (request : Request) (spec : Spec) (settings : Settings) (given : Fields) :
    Prop where
  switches : ∀ name, request.switches.get? name =
    if name ∈ spec.switches then some (.truth (settings.layeredSwitch spec.command given name))
    else none
  options : ∀ option ∈ spec.options, request.params.get? option.1 =
    some (settings.layeredOption spec.command given option.1 option.2)

theorem takes_requestOf (known : spec ∈ catalogue) (invocation : Invocation) {settings : Settings}
    (validated : settings.IsValidated) :
    (requestOf spec invocation settings).Takes spec settings invocation.options where
  switches name := by
    have switches_eq : (requestOf spec invocation settings).switches.get? name =
        (Keyed.get? name (Settings.switchValues (settings.valuesFor spec.command)
          invocation.options spec.switches)).map .truth :=
      Keyed.get?_map Value.truth name _
    rw [switches_eq, validated.get?_switchValues]
    split <;> rfl
  options option member := by
    rw [get?_params_of_mem_options known invocation settings member, validated.optionValue_eq]

/-! ## From the settings to the request -/

/-- Whether two runs give a name one value for a command: as a switch and as an option that they
resolve, and in the requests that they prepare for a generator of that command. -/
structure GiveSame (command name : String) (root other : Path) (first second : Workspace)
    (given givenSecond : Fields) : Prop where
  switch : ∀ names namesSecond values valuesSecond, name ∈ names → name ∈ namesSecond →
    (exec (Settings.resolveSwitches root command given names) first).1 = .ok values →
    (exec (Settings.resolveSwitches other command givenSecond namesSecond) second).1 =
      .ok valuesSecond →
    Keyed.get? name values = Keyed.get? name valuesSecond
  option : ∀ builtIn,
    (exec (Settings.resolveOption root command given name builtIn) first).1 =
      (exec (Settings.resolveOption other command givenSecond name builtIn) second).1
  request : ∀ spec ∈ catalogue, spec.command = command →
    ∀ positional positionalSecond request requestSecond,
      (exec (prepare root spec ⟨positional, given⟩) first).1 = .ok request →
      (exec (prepare other spec ⟨positionalSecond, givenSecond⟩) second).1 = .ok requestSecond →
      request.switches.get? name = requestSecond.switches.get? name ∧
        (name ∈ Keyed.keys spec.options →
          request.params.get? name = requestSecond.params.get? name)

theorem exists_takes_of_exec_prepare {request : Request} (validated : workspace.KeepsValidated)
    (known : spec ∈ catalogue)
    (prepared : (exec (prepare root spec invocation) workspace).1 = .ok request) :
    ∃ settings next, exec (Settings.load root) workspace = (.ok settings, next) ∧
      request.Takes spec settings invocation.options := by
  obtain ⟨-, settings, loaded, rfl⟩ := exec_prepare_eq_ok_iff.1 (Prod.ext prepared rfl)
  exact ⟨settings, _, loaded,
    takes_requestOf known invocation (Settings.isValidated_of_exec_load validated loaded)⟩

theorem giveSame_of_agreeAt {command name : String} {other : Path} {second : Workspace}
    {settings settingsSecond : Settings} {next nextSecond : Workspace} {given givenSecond : Fields}
    (validated : workspace.KeepsValidated) (validatedSecond : second.KeepsValidated)
    (loaded : exec (Settings.load root) workspace = (.ok settings, next))
    (loadedSecond : exec (Settings.load other) second = (.ok settingsSecond, nextSecond))
    (agree : Settings.AgreeAt command name settings settingsSecond given givenSecond) :
    GiveSame command name root other workspace second given givenSecond := by
  have resolves := Settings.resolves_of_exec_load validated loaded
  have resolvesSecond := Settings.resolves_of_exec_load validatedSecond loadedSecond
  refine ⟨?_, ?_, ?_⟩
  · intro names namesSecond values valuesSecond member memberSecond resolved resolvedSecond
    obtain ⟨held, _, ended, -, found⟩ := resolves.switches command given names
    obtain ⟨heldSecond, _, endedSecond, -, foundSecond⟩ :=
      resolvesSecond.switches command givenSecond namesSecond
    rw [ended] at resolved
    rw [endedSecond] at resolvedSecond
    cases resolved
    cases resolvedSecond
    rw [found, foundSecond, if_pos member, if_pos memberSecond, agree.layeredSwitch_eq]
  · intro builtIn
    obtain ⟨_, ended⟩ := resolves.option command given name builtIn
    obtain ⟨_, endedSecond⟩ := resolvesSecond.option command givenSecond name builtIn
    rw [ended, endedSecond, agree.layeredOption_eq]
  · intro spec known same positional positionalSecond request requestSecond prepared preparedSecond
    obtain ⟨held, _, loadedHeld, takes⟩ := exists_takes_of_exec_prepare validated known prepared
    obtain ⟨heldSecond, _, loadedHeldSecond, takesSecond⟩ :=
      exists_takes_of_exec_prepare validatedSecond known preparedSecond
    rw [loaded] at loadedHeld
    rw [loadedSecond] at loadedHeldSecond
    cases loadedHeld
    cases loadedHeldSecond
    subst same
    constructor
    · rw [takes.switches, takesSecond.switches, agree.layeredSwitch_eq]
    · intro member
      obtain ⟨option, among, rfl⟩ := List.mem_map.1 member
      rw [takes.options option among, takesSecond.options option among, agree.layeredOption_eq]

/-- What is resolved for a command, and the request that is prepared for a generator, have the
values of the layers of the settings in force; and two runs that agree on a name in every layer give
it one value. -/
theorem values_follow_layers (root other : Path) {second : Workspace}
    (validated : workspace.KeepsValidated) (validatedSecond : second.KeepsValidated) :
    (∀ settings next, exec (Settings.load root) workspace = (.ok settings, next) →
        Settings.Resolves root workspace settings) ∧
      (∀ spec ∈ catalogue, ∀ invocation request,
        (exec (prepare root spec invocation) workspace).1 = .ok request →
          ∃ settings next, exec (Settings.load root) workspace = (.ok settings, next) ∧
            request.Takes spec settings invocation.options) ∧
      ∀ settings settingsSecond next nextSecond,
        exec (Settings.load root) workspace = (.ok settings, next) →
        exec (Settings.load other) second = (.ok settingsSecond, nextSecond) →
        ∀ command name given givenSecond,
          Settings.AgreeAt command name settings settingsSecond given givenSecond →
          GiveSame command name root other workspace second given givenSecond := by
  refine ⟨fun settings next loaded => Settings.resolves_of_exec_load validated loaded,
    fun spec known invocation request => exists_takes_of_exec_prepare validated known, ?_⟩
  intro settings settingsSecond next nextSecond loaded loadedSecond command name given givenSecond
  exact giveSame_of_agreeAt validated validatedSecond loaded loadedSecond

/-- Settings in which a null for jobs hides the queue that all generators have. -/
def hiddenQueue : Settings :=
  ⟨[("queue", .text "emails")], [("make:job", [("queue", .null)])], .empty⟩

/-- Other settings with the same queue in every layer. -/
def hiddenQueueAmongOthers : Settings :=
  ⟨[("logging", .truth true), ("queue", .text "emails")],
    [("make:job", [("tries", .integer 9), ("queue", .null)]),
      ("make:event", [("queue", .text "high")])], .empty⟩

theorem isValidated_hiddenQueue : hiddenQueue.IsValidated :=
  ⟨.mapping [(.text "generators", .mapping [
    (.text "defaults", .mapping [(.text "queue", .text "emails")]),
    (.text "overrides", .mapping [(.text "make:job", .mapping [(.text "queue", .null)])])])], rfl⟩

theorem isValidated_hiddenQueueAmongOthers : hiddenQueueAmongOthers.IsValidated :=
  ⟨.mapping [(.text "generators", .mapping [
    (.text "defaults", .mapping [(.text "logging", .truth true), (.text "queue", .text "emails")]),
    (.text "overrides", .mapping [
      (.text "make:job", .mapping [(.text "tries", .integer 9), (.text "queue", .null)]),
      (.text "make:event", .mapping [(.text "queue", .text "high")])])])], rfl⟩

/-- A project without anything, whose settings have been read. -/
def bareKeeping (settings : Settings) : Workspace :=
  ⟨⟨.bare, [], 0o022, .quiet⟩, some settings, []⟩

theorem keepsValidated_bareKeeping {settings : Settings} (validated : settings.IsValidated) :
    (bareKeeping settings).KeepsValidated := by
  intro held kept
  cases kept
  exact validated

/-- A job takes the built-in queue, and under both settings the same. -/
theorem values_follow_layers_hiddenQueue :
    (bareKeeping hiddenQueue).KeepsValidated ∧
      (bareKeeping hiddenQueueAmongOthers).KeepsValidated ∧
      (∃ request, (exec (prepare ⟨.relative, []⟩ jobSpec ⟨["send"], []⟩)
          (bareKeeping hiddenQueue)).1 = .ok request ∧
        request.params.get? "queue" = some (.text "default")) ∧
      GiveSame "make:job" "queue" ⟨.relative, []⟩ ⟨.relative, []⟩ (bareKeeping hiddenQueue)
        (bareKeeping hiddenQueueAmongOthers) [] [] := by
  have validated := keepsValidated_bareKeeping isValidated_hiddenQueue
  have validatedAmongOthers := keepsValidated_bareKeeping isValidated_hiddenQueueAmongOthers
  obtain ⟨-, prepares, gives⟩ :=
    values_follow_layers ⟨.relative, []⟩ ⟨.relative, []⟩ validated validatedAmongOthers
  have known : jobSpec ∈ catalogue := by simp [catalogue]
  have prepared : (exec (prepare ⟨.relative, []⟩ jobSpec ⟨["send"], []⟩)
      (bareKeeping hiddenQueue)).1 = .ok (requestOf jobSpec ⟨["send"], []⟩ hiddenQueue) := rfl
  obtain ⟨settings, next, loaded, takes⟩ := prepares jobSpec known _ _ prepared
  rw [Settings.exec_load_of_kept rfl] at loaded
  cases loaded
  refine ⟨validated, validatedAmongOthers, ⟨_, prepared, ?_⟩, ?_⟩
  · exact takes.options ("queue", .text "default") (by simp [jobSpec])
  · exact gives _ _ _ _ (Settings.exec_load_of_kept rfl) (Settings.exec_load_of_kept rfl) _ _ _ _
      ⟨rfl, rfl, rfl⟩

end Generator

end Scaffold
