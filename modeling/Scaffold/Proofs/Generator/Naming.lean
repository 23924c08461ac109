import Scaffold.Proofs.Generator.DryRun
import Scaffold.Proofs.Generator.Site
import Scaffold.Proofs.Generator.Written

/-!
# Names that are declared

The files of a run declare a namespace, a class and, for a listener, an event. The name of the class is
checked after its words are joined and is never empty. What is given for the namespace and for the
event is checked before, if at all, and may come to nothing.
-/

set_option autoImplicit false

namespace Scaffold.Generator

open Template

variable {root : Path} {spec : Spec} {invocation : Invocation} {workspace final : Workspace}

/-- Whether the text of a file of a generator declares no empty name. -/
structure DeclaresNames (spec : Spec) (content : String) : Prop where
  space : ∃ space, namespaceOf? content = some space ∧ [] ∉ space.splitOn '\\'
  className : ∃ className, declaredName? content = some className ∧ className ≠ []
  event : spec = listenerSpec → ∃ event, listenedEvent? content = some event ∧
    handledEvent? content = some event ∧ event ≠ []

/-- What a reader finds between the backslashes of the names that are given for a place, up to a
semicolon. -/
def givenNames (spec : Spec) (request : Request) : List (List Char) :=
  (((joined '\\' (placeNames spec request)).takeWhile (· ≠ ';')).splitOn '\\').tail

/-! ## Names between separators -/

/-- Whether a text is empty or starts with a separator. -/
def IsLed (separator : Char) (text : List Char) : Prop :=
  text = [] ∨ ∃ rest, text = separator :: rest

theorem isLed_joined (separator : Char) (names : List String) :
    IsLed separator (joined separator names) := by
  cases names with
  | nil => exact .inl rfl
  | cons name names => exact .inr ⟨_, rfl⟩

theorem IsLed.append {separator : Char} {front back : List Char} (front_led : IsLed separator front)
    (back_led : IsLed separator back) : IsLed separator (front ++ back) := by
  rcases front_led with rfl | ⟨rest, rfl⟩
  · exact back_led
  · exact .inr ⟨rest ++ back, rfl⟩

theorem IsLed.takeWhile {separator : Char} {text : List Char} (led : IsLed separator text)
    {keep : Char → Bool} (kept : keep separator = true) :
    IsLed separator (text.takeWhile keep) := by
  rcases led with rfl | ⟨rest, rfl⟩
  · exact .inl rfl
  · rw [List.takeWhile_cons, if_pos kept]
    exact .inr ⟨_, rfl⟩

theorem splitOn_append_of_isLed {separator : Char} (front : List Char) {back : List Char}
    (led : IsLed separator back) :
    (front ++ back).splitOn separator =
      front.splitOn separator ++ (back.splitOn separator).tail := by
  rcases led with rfl | ⟨rest, rfl⟩
  · rw [List.append_nil, List.splitOn_nil, List.tail_cons, List.append_nil]
  · rw [List.splitOn_append_cons_self, List.splitOn_cons_eq_if_modifyHead,
      if_pos (beq_self_eq_true separator), List.tail_cons]

/-! ## Namespaces -/

/-- A frame has no empty names of its own. -/
theorem names_of_frame (known : spec ∈ catalogue) :
    ';' ∉ (frameOf spec).top.toList ++ joined '\\' (frameOf spec).before ∧
      [] ∉ ((frameOf spec).top.toList ++ joined '\\' (frameOf spec).before).splitOn '\\' ∧
      ';' ∉ joined '\\' (frameOf spec).after ∧
      [] ∉ ((joined '\\' (frameOf spec).after).splitOn '\\').tail := by
  have framed : ∀ spec ∈ catalogue,
      ';' ∉ (frameOf spec).top.toList ++ joined '\\' (frameOf spec).before ∧
        [] ∉ ((frameOf spec).top.toList ++ joined '\\' (frameOf spec).before).splitOn '\\' ∧
        ';' ∉ joined '\\' (frameOf spec).after ∧
        [] ∉ ((joined '\\' (frameOf spec).after).splitOn '\\').tail := by
    decide +kernel
  exact framed spec known

/-- A namespace in a frame holds an empty name just if the names that are given do. -/
theorem nil_mem_space_iff (known : spec ∈ catalogue) (names : List String) (className : String) :
    [] ∈ (((frameOf spec).site names className).space.takeWhile (· ≠ ';')).splitOn '\\' ↔
      [] ∈ (((joined '\\' names).takeWhile (· ≠ ';')).splitOn '\\').tail := by
  obtain ⟨wholeFront, filledFront, wholeBack, filledBack⟩ := names_of_frame known
  have separates : decide ('\\' ≠ ';') = true := by decide
  have space_eq : ((frameOf spec).site names className).space =
      ((frameOf spec).top.toList ++ joined '\\' (frameOf spec).before) ++
        (joined '\\' names ++ joined '\\' (frameOf spec).after) := by
    simp only [Frame.site, Site.space, joined_append, List.append_assoc]
  rw [space_eq, Text.takeWhile_append_of_not_mem wholeFront,
    splitOn_append_of_isLed _ (((isLed_joined _ names).append (isLed_joined _ _)).takeWhile separates),
    List.mem_append, or_iff_right filledFront]
  -- A semicolon in the names that are given hides what the frame has after them.
  by_cases hidden : ';' ∈ joined '\\' names
  · rw [Text.takeWhile_append_of_mem hidden]
  · rw [Text.takeWhile_append_of_not_mem hidden, Text.takeWhile_of_not_mem wholeBack,
      Text.takeWhile_of_not_mem hidden, splitOn_append_of_isLed _ (isLed_joined _ _),
      List.tail_append_of_ne_nil (List.splitOn_ne_nil _ _), List.mem_append, or_iff_left filledBack]

/-! ## Files of a request -/

theorem listenerSpec_mem : listenerSpec ∈ catalogue := by
  simp [catalogue]

/-- A listener is declared for the event that is given, and takes it. -/
theorem events_of_provide {settings : Settings} {artifacts : List Artifact}
    (provided : provideListener (requestOf listenerSpec invocation settings) = .ok artifacts) :
    ∀ artifact ∈ artifacts,
      listenedEvent? artifact.content = some (nameOf invocation.options "event").toList ∧
        handledEvent? artifact.content = some (nameOf invocation.options "event").toList := by
  intro artifact member
  have supplies := supplies_requestOf listenerSpec_mem invocation settings
  have isJoined := isJoined_requestOf listenerSpec_mem invocation settings
  obtain ⟨tracing, logging, drafted⟩ := exists_drafts_listener supplies
  rw [drafted.provide_eq] at provided
  obtain ⟨draft, among, made⟩ := Draft.exists_of_mem_mapM provided member
  obtain rfl := List.mem_singleton.1 among
  obtain ⟨-, heard, plain⟩ := plain_listenerDraft isJoined.named tracing logging
    (get?_params_requestOf listenerSpec_mem invocation settings (by decide))
    (isJoined.unswitched "event" (by decide)) (whole_nameOf _ _)
  rw [← shown_of_get? heard]
  exact events_of_render plain (Draft.artifact_eq_ok_iff.1 made).1

/-- The files of a request declare no empty name just if no name that is given for their place comes to
nothing, nor the event for a listener. -/
theorem declaresNames_iff_of_provide (known : spec ∈ catalogue) {settings : Settings}
    {artifacts : List Artifact} (named : requestName spec invocation ≠ "")
    (provided : spec.provide (requestOf spec invocation settings) = .ok artifacts) :
    (∀ artifact ∈ artifacts, DeclaresNames spec artifact.content) ↔
      [] ∉ givenNames spec (requestOf spec invocation settings) ∧
        (spec = listenerSpec → nameOf invocation.options "event" ≠ "") := by
  have supplies := supplies_requestOf known invocation settings
  have isJoined := isJoined_requestOf known invocation settings
  have madeFor := exists_isMadeFor known supplies isJoined provided
  constructor
  · intro declares
    obtain ⟨artifact, others, rfl⟩ := List.exists_cons_of_ne_nil
      (artifacts_ne_nil known supplies provided)
    obtain ⟨suffix, -, isFor⟩ := madeFor artifact List.mem_cons_self
    obtain ⟨⟨space, space_eq, filled⟩, -, events⟩ := declares artifact List.mem_cons_self
    constructor
    · rw [isFor.space_eq, Option.some.injEq] at space_eq
      rw [← space_eq, nil_mem_space_iff known] at filled
      exact filled
    · rintro rfl empty
      obtain ⟨event, listened, -, inked⟩ := events rfl
      obtain ⟨listened_eq, -⟩ := events_of_provide provided artifact List.mem_cons_self
      rw [listened_eq, empty, Option.some.injEq] at listened
      exact inked listened.symm
  · rintro ⟨filled, heard⟩ artifact member
    obtain ⟨suffix, -, isFor⟩ := madeFor artifact member
    refine ⟨⟨_, isFor.space_eq, (nil_mem_space_iff known _ _).not.2 filled⟩,
      ⟨_, isFor.className_eq, ?_⟩, ?_⟩
    · intro empty
      rw [Frame.site, String.toList_append, name_requestOf] at empty
      exact named (String.toList_eq_nil_iff.1 (List.append_eq_nil_iff.1 empty).1)
    · rintro rfl
      obtain ⟨listened, handled⟩ := events_of_provide provided artifact member
      exact ⟨_, listened, handled, fun empty => heard rfl (String.toList_eq_nil_iff.1 empty)⟩

/-! ## Files of a run -/

/-- Whether a file of a tree was there before a run, or is one of some artifacts, or the composition file
that is handed over. -/
def IsAccountedFor (root : Path) (spec : Spec) (invocation : Invocation) (old new : Workspace)
    (artifacts : List Artifact) (place : Place) (octets : ByteArray) (mode : Nat) : Prop :=
  old.disk.tree.item? place = some (.file octets mode) ∨
    (∃ artifact ∈ artifacts, new.disk.placeOf (artifact.target root) = .ok place ∧
      octets = Text.encode artifact.content) ∨
    ∃ registration, HandsOver root spec invocation old registration ∧
      new.disk.placeOf registration.path = .ok place

theorem isAccountedFor_of_planned (known : spec ∈ catalogue) (sound : workspace.disk.Sound)
    {request : Request} {artifacts : List Artifact} {next : Workspace}
    (planned : exec (plan root spec invocation) workspace = (.ok (request, artifacts), next))
    (ran : exec (run root spec invocation) workspace = (.ok 0, final)) (place : Place)
    (octets : ByteArray) (mode : Nat)
    (present : final.disk.tree.item? place = some (.file octets mode)) :
    IsAccountedFor root spec invocation workspace final artifacts place octets mode := by
  have writes := writesOnly_run root known invocation sound
  rw [ran] at writes
  rcases writes.file place octets mode present with before | ⟨path, isWritten, placed⟩
  · exact .inl before
  · cases isWritten with
    | artifact plannedAgain member =>
      rw [planned] at plannedAgain
      cases plannedAgain
      exact .inr (.inl ⟨_, member, placed, rfl⟩)
    | composition handed => exact .inr (.inr ⟨_, handed, placed⟩)

/-- The files of a run that exits with 0 declare no empty name just if no name that is given for their
place comes to nothing, nor the event for a listener. -/
theorem declaresNames_iff_of_exit (known : spec ∈ catalogue) (sound : workspace.disk.Sound)
    (ran : exec (run root spec invocation) workspace = (.ok 0, final)) :
    ∃ settings artifacts next,
      exec (plan root spec invocation) workspace =
        (.ok (requestOf spec invocation settings, artifacts), next) ∧
      artifacts ≠ [] ∧
      (∀ place octets mode, final.disk.tree.item? place = some (.file octets mode) →
        IsAccountedFor root spec invocation workspace final artifacts place octets mode) ∧
      ((∀ artifact ∈ artifacts, DeclaresNames spec artifact.content) ↔
        [] ∉ givenNames spec (requestOf spec invocation settings) ∧
          (spec = listenerSpec → nameOf invocation.options "event" ≠ "")) := by
  have plans := plans_plan root spec invocation workspace
  cases planned : exec (plan root spec invocation) workspace with
  | mk result next =>
    cases result with
    | error failure =>
      rw [exec_run_of_unplanned planned] at ran
      exact absurd ran (settled_ne _ _ _)
    | ok made =>
      rw [planned] at plans
      cases plans with
      | @planned settings artifacts _ valid loaded provided =>
        have supplies := supplies_requestOf known invocation settings
        have isJoined := isJoined_requestOf known invocation settings
        exact ⟨settings, artifacts, next, rfl, artifacts_ne_nil known supplies provided,
          isAccountedFor_of_planned known sound planned ran,
          declaresNames_iff_of_provide known (requestName_ne_empty valid.named) provided⟩

theorem declaresNames_iff_of_exit_addUser :
    controllerSpec ∈ catalogue ∧ shopWorkspace.disk.Sound ∧ ∃ final,
      exec (run ⟨.relative, []⟩ controllerSpec addUser) shopWorkspace = (.ok 0, final) ∧
      ∃ settings artifacts next,
        exec (plan ⟨.relative, []⟩ controllerSpec addUser) shopWorkspace =
          (.ok (requestOf controllerSpec addUser settings, artifacts), next) ∧
        artifacts ≠ [] ∧ ∀ artifact ∈ artifacts, DeclaresNames controllerSpec artifact.content := by
  have exits : (exec (run ⟨.relative, []⟩ controllerSpec addUser) shopWorkspace).1.toOption =
      some 0 := by
    decide +kernel
  obtain ⟨final, ran⟩ := exists_exec_eq_of_toOption exits
  obtain ⟨settings, artifacts, next, planned, filled, -, declares⟩ :=
    declaresNames_iff_of_exit controllerSpec_mem sound_shopWorkspace ran
  refine ⟨controllerSpec_mem, sound_shopWorkspace, final, ran, settings, artifacts, next, planned,
    filled, declares.2 ⟨?_, nofun⟩⟩
  rw [givenNames, placeNames_controller]
  decide +kernel

/-- A command is asked for in the module `Shop`, for an entity of which no word is left. -/
def sendForNothing : Invocation :=
  ⟨["send"], [("module", .text "shop"), ("entity", .text "-")]⟩

/-- The command and its handler are made in a namespace with an empty name. -/
theorem run_declares_empty_name :
    (exec (run ⟨.relative, []⟩ commandSpec sendForNothing) shopWorkspace).1.toOption = some 0 ∧
      ∃ request artifacts next,
        exec (plan ⟨.relative, []⟩ commandSpec sendForNothing) shopWorkspace =
          (.ok (request, artifacts), next) ∧
        artifacts ≠ [] ∧ ∀ artifact ∈ artifacts,
          IsNewFile shopWorkspace.disk.tree
            (exec (run ⟨.relative, []⟩ commandSpec sendForNothing) shopWorkspace).2.disk.tree
            artifact.parts (Text.encode artifact.content) shopWorkspace.disk.newMode ∧
          namespaceOf? artifact.content =
            some "Core\\Application\\Logics\\Shop\\\\Commands".toList ∧
          [] ∈ "Core\\Application\\Logics\\Shop\\\\Commands".toList.splitOn '\\' := by
  have known : commandSpec ∈ catalogue := List.mem_cons_self
  have exits : (exec (run ⟨.relative, []⟩ commandSpec sendForNothing) shopWorkspace).1.toOption =
      some 0 := by
    decide +kernel
  obtain ⟨final, ran⟩ := exists_exec_eq_of_toOption exits
  have plansWell : (exec (plan ⟨.relative, []⟩ commandSpec sendForNothing) shopWorkspace).1.isOk =
      true := by
    decide +kernel
  obtain ⟨⟨request, artifacts⟩, next, planned⟩ := exists_exec_eq_ok plansWell
  have rooted : shopWorkspace.disk.IsRoot ⟨.relative, []⟩ [] := Disk.isRoot_of_directory rfl rfl
  have isNew := isNewFile_iff_of_exit known sound_shopWorkspace rooted rfl planned ran
  have plans := plans_plan ⟨.relative, []⟩ commandSpec sendForNothing shopWorkspace
  rw [planned] at plans
  cases plans with
  | @planned settings _ _ valid loaded provided =>
    have supplies := supplies_requestOf known sendForNothing settings
    have isJoined := isJoined_requestOf known sendForNothing settings
    have names_eq : placeNames commandSpec (requestOf commandSpec sendForNothing settings) =
        ["Shop", ""] := by
      have given (name : String) (member : name ∈ commandSpec.mustBeGiven) :=
        get?_params_requestOf known sendForNothing settings member
      have module := given "module" (by decide)
      have entity := given "entity" (by decide)
      rw [placeNames_of_two rfl (by decide) module entity]
      decide +kernel
    have space_eq : ((frameOf commandSpec).top.toList ++ joined '\\' ((frameOf commandSpec).before ++
        ["Shop", ""] ++ (frameOf commandSpec).after)).takeWhile (· ≠ ';') =
          "Core\\Application\\Logics\\Shop\\\\Commands".toList := by
      decide +kernel
    refine ⟨exits, _, artifacts, next, planned, artifacts_ne_nil known supplies provided,
      fun artifact member => ⟨?_, ?_, by decide +kernel⟩⟩
    · rw [ran]
      exact (isNew _ _ _).2 ⟨rfl, artifact, member, rfl, rfl⟩
    · obtain ⟨suffix, -, isFor⟩ := exists_isMadeFor known supplies isJoined provided artifact member
      rw [names_eq] at isFor
      exact isFor.space_eq.trans (congrArg some space_eq)

end Scaffold.Generator
