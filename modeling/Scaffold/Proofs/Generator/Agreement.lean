import Scaffold.Proofs.Generator.Usage

/-!
# What is generated agrees with itself

A controller imports each class once that it makes an instance of. So all that is made for commands,
queries, controllers, listeners and jobs imports just the optional classes that it names, declares the
variables that it uses and uses those of a method where they are assigned.
-/

set_option autoImplicit false

namespace Scaffold.Generator

open Source Template Text

variable {spec : Spec} {request : Request} {content name : String} {agreed : List Question}

/-! ## What controllers import -/

theorem groupsFor_controller : ∀ agreed ∈ controllerQuestions.sublists,
    GroupsFor (wantedBy controllerClasses agreed)
      [⟨agreed.contains ("auth", none), [authorizeImport, authenticationImport]⟩,
        ⟨agreed.contains ("logging", none), [loggerImport]⟩,
        ⟨agreed.contains ("tracing", none), [tracerImport]⟩] := by
  decide +kernel

theorem isPlainImport_controller : ∀ name ∈ controllerImports, IsPlainImport name := by
  decide +kernel

section ShortName

variable {shortName : String} (foreign : IsForeignWord shortName.toList)

include foreign

theorem not_mem_importName {sending : Sending} (listed : sending ∈ sendings) {mark : Char}
    (marks : mark ∈ ['\n', '(', '$', '>']) : mark ∉ (importName sending shortName).toList := by
  have absent : mark ∉ fill (fun _ => shortName.toList) (fun _ => []) sending.importParts :=
    (Sending.isPath_importParts sending listed).not_mem (fun _ => foreign) marks
  rw [← toList_importLine, importLine, String.toList_append, String.toList_append, List.mem_append,
    List.mem_append, not_or, not_or] at absent
  exact absent.1.2

theorem isPlainImport_request (member : name ∈ requestImports shortName) : IsPlainImport name := by
  obtain ⟨sending, listed, rfl⟩ := mem_requestImports_iff.1 member
  refine ⟨fun mark marks => not_mem_importName foreign listed ?_, fun optional among => ?_⟩
  · have wider : ∀ mark ∈ ['\n', '$', '>'], mark ∈ ['\n', '(', '$', '>'] :=
      List.all_iff_forall_prop.1 (by decide)
    exact wider mark marks
  · rw [toList_importLine]
    exact (Sending.isPath_importParts sending listed).classless (fun _ => foreign) among

end ShortName

/-- What a controller imports. -/
def importsOf (shortName : String) (auth logging tracing : Bool) : List String :=
  importNames (controllerImports ++ requestImports shortName)
    [⟨auth, [authorizeImport, authenticationImport]⟩, ⟨logging, [loggerImport]⟩,
      ⟨tracing, [tracerImport]⟩]

/-- A name that a controller imports is that of a request or a fixed one. -/
theorem mem_importsOf {shortName : String} {auth logging tracing : Bool}
    (member : name ∈ importsOf shortName auth logging tracing) :
    name ∈ requestImports shortName ∨
      name ∈ controllerImports ++
        [authorizeImport, authenticationImport, loggerImport, tracerImport] := by
  rcases mem_importNames_iff.1 member with inBase | ⟨group, among, -, named⟩
  · rcases List.mem_append.1 inBase with fixed | sent
    · exact .inr (List.mem_append_left _ fixed)
    · exact .inl sent
  · refine .inr (List.mem_append_right _ ?_)
    simp only [List.mem_cons, List.not_mem_nil, or_false] at among
    rcases among with rfl | rfl | rfl
    · exact List.mem_append_left [loggerImport, tracerImport] named
    · rw [List.mem_singleton.1 named]
      simp
    · rw [List.mem_singleton.1 named]
      simp

theorem importName_mem_importsOf {sending : Sending} (listed : sending ∈ sendings)
    (shortName : String) (auth logging tracing : Bool) :
    importName sending shortName ∈ importsOf shortName auth logging tracing :=
  mem_importNames_iff.2 (.inl (List.mem_append_right _
    (mem_requestImports_iff.2 ⟨sending, listed, rfl⟩)))

theorem count_map_eq_one {α β : Type} [BEq α] [LawfulBEq α] [BEq β] [LawfulBEq β] {f : α → β}
    {entries : List α} {entry : α} (nodup : entries.Nodup) (member : entry ∈ entries)
    (only : ∀ other ∈ entries, f other = f entry → other = entry) :
    (entries.map f).count (f entry) = 1 := by
  rw [List.count_eq_countP, List.countP_map, ← List.count_eq_one_of_mem nodup member,
    List.count_eq_countP]
  refine List.countP_congr fun other among => ?_
  simp only [Function.comp_apply, beq_iff_eq]
  exact ⟨only other among, fun same => congrArg f same⟩

/-- The class of each request that a controller sends is imported once. -/
theorem count_className {sending : Sending} (listed : sending ∈ sendings) {shortName : String}
    (words : ∀ character ∈ shortName.toList, isWord character) (auth logging tracing : Bool) :
    ((importsOf shortName auth logging tracing).map lastSegment).count
      (sending.className shortName.toList) = 1 := by
  rw [← lastSegment_importName listed words]
  refine count_map_eq_one (nodup_importNames _ _)
    (importName_mem_importsOf listed shortName auth logging tracing) fun other among same => ?_
  rw [lastSegment_importName listed words] at same
  rcases mem_importsOf among with sent | fixed
  · obtain ⟨otherSending, otherListed, rfl⟩ := mem_requestImports_iff.1 sent
    rw [lastSegment_importName otherListed words] at same
    rw [Sending.eq_of_className_eq otherListed listed same]
  · -- No class that is imported in any case is called like a request.
    have apart : ∀ sending ∈ sendings, ∀ name ∈ controllerImports ++
        [authorizeImport, authenticationImport, loggerImport, tracerImport],
        ¬sending.verb.toList <+: lastSegment name := by
      decide +kernel
    exact absurd ⟨_, same.symm⟩ (apart sending listed other fixed)

/-! ## Controllers -/

/-- Whether a text is in lower case and has no marks. -/
structure IsLowered (text : List Char) : Prop where
  settled : ∀ character ∈ text, lowerOf character = [character]
  unmarked : IsUnmarked text

/-- What is filled in for the variables of a controller. -/
structure FillsController (values lists : String → List Char) (shortName : String)
    (auth logging tracing : Bool) : Prop where
  named : IsForeignWord (values "name")
  module : IsForeignWord (values "module")
  short : values "short_name" = shortName.toList
  foreign : IsForeignWord shortName.toList
  area : IsLowered (values "area_name")
  route : IsLowered (values "route_name")
  imports : lists "imports" = importBlock (importsOf shortName auth logging tracing)

namespace FillsController

variable {values lists : String → List Char} {shortName : String} {auth logging tracing : Bool}

theorem shortForeign (fills : FillsController values lists shortName auth logging tracing) :
    IsForeignWord (values "short_name") :=
  fills.short ▸ fills.foreign

theorem forall_words (fills : FillsController values lists shortName auth logging tracing) :
    ∀ name ∈ ["name", "short_name", "module"], ∀ character ∈ values name, isWord character := by
  simp only [List.forall_mem_cons]
  exact ⟨fills.named.words, fills.shortForeign.words, fills.module.words, List.forall_mem_nil _⟩

theorem fills (fills : FillsController values lists shortName (agreed.contains ("auth", none))
      (agreed.contains ("logging", none)) (agreed.contains ("tracing", none)))
    (among : agreed ∈ controllerQuestions.sublists) :
    Fills values lists ["name", "short_name", "module"] controllerGaps
      (wantedBy controllerClasses agreed) := by
  have lowered {text : List Char} (isLowered : IsLowered text) :
      IsFiller (wantedBy controllerClasses agreed) text :=
    isFiller_of_settled isLowered.settled (isLowered.unmarked.not_mem (by decide))
      (isLowered.unmarked.not_mem (by decide))
  have split : controllerGaps.partition (·.isBlock) = ([.imports "imports"], [.value "area_name",
      .value "route_name", .value "name", .value "short_name", .value "module"]) :=
    rfl
  refine fills_of_partition split fills.forall_words ?_ (List.forall_mem_singleton.2
    ⟨_, importsFor_importNames (List.append_ne_nil_of_left_ne_nil (by decide) _) ?_
      (groupsFor_controller agreed among), fills.imports⟩)
  · simp only [List.forall_mem_cons]
    exact ⟨lowered fills.area, lowered fills.route, isFiller_of_isForeignWord fills.named,
      isFiller_of_isForeignWord fills.shortForeign, isFiller_of_isForeignWord fills.module,
      List.forall_mem_nil _⟩
  · exact List.forall_mem_append.2
      ⟨isPlainImport_controller, fun name member => isPlainImport_request fills.foreign member⟩

theorem fillsTightly (fills : FillsController values lists shortName auth logging tracing) :
    FillsTightly values lists ["name", "short_name", "module"] (controllerGaps.filter (!·.isBlock))
      (.imports "imports") (importsOf shortName auth logging tracing) := by
  have marked : ∀ mark ∈ ['\n', '(', ' '], mark.toNat ∈ markCodes :=
    List.all_iff_forall_prop.1 (by decide)
  have foreign {text : List Char} (isForeign : IsForeignWord text) :
      ∀ mark ∈ ['\n', '(', ' '], mark ∉ text :=
    fun mark listed => (isUnmarked_of_words isForeign.words).not_mem (marked mark listed)
  have lowered {text : List Char} (isLowered : IsLowered text) :
      ∀ mark ∈ ['\n', '(', ' '], mark ∉ text :=
    fun mark listed => isLowered.unmarked.not_mem (marked mark listed)
  refine ⟨fills.imports, ?_, ?_, fills.forall_words, ?_⟩
  · exact importNames_ne_nil (List.append_ne_nil_of_left_ne_nil (by decide) _) _
  · intro name member mark listed
    rcases mem_importsOf member with sent | fixed
    · obtain ⟨sending, among, rfl⟩ := mem_requestImports_iff.1 sent
      have wider : ∀ mark ∈ ['\n', '('], mark ∈ ['\n', '(', '$', '>'] :=
        List.all_iff_forall_prop.1 (by decide)
      exact not_mem_importName fills.foreign among (wider mark listed)
    · have closed : ∀ name ∈ controllerImports ++
          [authorizeImport, authenticationImport, loggerImport, tracerImport],
          ['\n', '('].all (· ∉ letters name) = true := by
        decide +kernel
      rw [← letters_eq]
      exact List.all_iff_forall_prop.1 (closed name fixed) mark listed
  · intro gap member
    have gaps_eq : controllerGaps.filter (!·.isBlock) = [.value "area_name", .value "route_name",
        .value "name", .value "short_name", .value "module"] := rfl
    rw [gaps_eq] at member
    simp only [List.mem_cons, List.not_mem_nil, or_false] at member
    rcases member with rfl | rfl | rfl | rfl | rfl
    · exact lowered fills.area
    · exact lowered fills.route
    · exact foreign fills.named
    · exact foreign fills.shortForeign
    · exact foreign fills.module

end FillsController

theorem agrees_controller (foreign : request.HasForeignNames)
    (distinct : (Keyed.keys request.switches).Nodup) {module : String}
    {auth logging tracing : Value}
    (moduleFound : request.params.get? "module" = some (.text module))
    (authFound : request.switches.get? "auth" = some auth)
    (loggingFound : request.switches.get? "logging" = some logging)
    (tracingFound : request.switches.get? "tracing" = some tracing)
    (rendered : controller.render
      (controllerDraft request module auth.holds logging.holds tracing.holds).context = .ok content) :
    Agrees content.toList ∧ ImportsWhatItMakes content.toList := by
  obtain ⟨agreed, among, text_eq, agrees⟩ := exists_agreed controllerQuestions (by decide) rendered
  set context := (controllerDraft request module auth.holds logging.holds tracing.holds).context
  have authorized : agreed.contains ("auth", none) = auth.holds :=
    contains_switch distinct agrees authFound (by decide) (by simp [Keyed.keys]) (by decide)
  have logged : agreed.contains ("logging", none) = logging.holds :=
    contains_switch distinct agrees loggingFound (by decide) (by simp [Keyed.keys]) (by decide)
  have traced : agreed.contains ("tracing", none) = tracing.holds :=
    contains_switch distinct agrees tracingFound (by decide) (by simp [Keyed.keys]) (by decide)
  have shortFound : context.get? "short_name" =
      some (.text (stripSuffix request.name "Controller")) :=
    get?_contextWith_of_mem (by simp [Keyed.keys]) List.mem_cons_self
  have routeFound : context.get? "route_name" =
      some (.text (lowerCase (stripSuffix request.name "Controller"))) :=
    get?_contextWith_of_mem (by simp [Keyed.keys]) (by simp)
  have areaFound : context.get? "area_name" = some (.text (kebabCase module)) :=
    get?_contextWith_of_mem (by simp [Keyed.keys]) (by simp)
  have importsFound : context.get? "imports" = some (nameList
      (importsOf (stripSuffix request.name "Controller") auth.holds logging.holds tracing.holds)) :=
    get?_contextWith_of_mem (by simp [Keyed.keys]) (by simp [importsOf])
  have short : IsForeignWord (stripSuffix request.name "Controller").toList :=
    foreign.name.of_isInfix (stripSuffix_isPrefix _ _).isInfix
  have ofModule : IsForeignWord module.toList :=
    isForeignWord_param foreign (by decide) moduleFound
  have filled : FillsController (valueIn context) (listIn context)
      (stripSuffix request.name "Controller") auth.holds logging.holds tracing.holds := by
    refine ⟨isForeignWord_name foreign (by simp [Keyed.keys]),
      isForeignWord_given foreign (by decide) (by simp [Keyed.keys]), valueIn_of_text shortFound,
      short, ?_, ?_, listIn_of_get? importsFound⟩
    · rw [valueIn_of_text areaFound]
      exact ⟨lowerOf_of_mem_kebabCase, isUnmarked_kebabCase (isUnmarked_of_words ofModule.words)⟩
    · rw [valueIn_of_text routeFound]
      exact ⟨lowerOf_of_mem_lowerCase, isUnmarked_lowerCase (isUnmarked_of_words short.words)⟩
  rw [text_eq]
  constructor
  · rw [← authorized, ← logged, ← traced] at filled
    exact agrees_fill (agreesBy_controller agreed among) (filled.fills among)
  · refine importsWhatItMakes_fill (makesBy_controller agreed among) filled.fillsTightly ?_
    intro line listed made member
    obtain ⟨sending, sent, rfl⟩ := List.mem_map.1 listed
    have words : ∀ character ∈ valueIn context "short_name", isWord character :=
      filled.shortForeign.words
    rw [Sending.eq_className_of_mem sent words member, filled.short]
    exact count_className sent short.words _ _ _

/-! ## All of them -/

/-- The commands whose classes log, trace or authorize, or send what does. -/
def observedCommands : List String :=
  ["make:command", "make:query", "make:controller", "make:job", "make:listener"]

theorem agrees_of_isDraftOf {draft : Draft} (drafted : IsDraftOf request spec draft)
    (listed : spec.command ∈ observedCommands) (foreign : request.IsForeign spec)
    (distinct : (Keyed.keys request.switches).Nodup)
    (rendered : draft.template.render draft.context = .ok content) :
    Agrees content.toList ∧ (draft.kind = "controller" → ImportsWhatItMakes content.toList) := by
  cases drafted with
  | job =>
    exact ⟨agrees_job foreign rendered, fun same : "job" = "controller" => absurd same (by decide)⟩
  | listener tracingFound loggingFound =>
    exact ⟨agrees_listener foreign.toHasForeignNames distinct tracingFound loggingFound rendered,
      fun same : "listener" = "controller" => absurd same (by decide)⟩
  | controller moduleFound authFound loggingFound tracingFound =>
    obtain ⟨agrees, makes⟩ := agrees_controller foreign.toHasForeignNames distinct moduleFound
      authFound loggingFound tracingFound rendered
    exact ⟨agrees, fun _ => makes⟩
  | request makes moduleFound entityFound =>
    refine ⟨agrees_request foreign.toHasForeignNames makes moduleFound entityFound rendered,
      fun same => ?_⟩
    cases makes with
    | command =>
      have kinds : "command" = "controller" := same
      exact absurd kinds (by decide)
    | query =>
      have kinds : "query" = "controller" := same
      exact absurd kinds (by decide)
  | handler makes moduleFound entityFound tracingFound loggingFound =>
    refine ⟨agrees_handler foreign.toHasForeignNames distinct ?_ moduleFound entityFound tracingFound
      loggingFound rendered, fun same : "handler" = "controller" => absurd same (by decide)⟩
    cases makes with
    | command => exact List.mem_cons_self
    | query => exact List.mem_cons_of_mem _ List.mem_cons_self
  | infrastructure makes =>
    cases makes with
    | service | middleware => exact absurd listed (by decide)
  | seeder | event | entity | trait => exact absurd listed (by decide)

/-- What is made for commands, queries, controllers, listeners and jobs imports an optional class exactly
if it names it, declares the variables that it uses, and uses those of a method where they are assigned.
A controller imports each class once that it makes an instance of. -/
theorem imports_agree_with_uses {artifacts : List Artifact} (known : spec ∈ catalogue)
    (listed : spec.command ∈ observedCommands) (distinct : (Keyed.keys request.switches).Nodup)
    (foreign : request.IsForeign spec) (provided : spec.provide request = .ok artifacts) :
    ∀ artifact ∈ artifacts, Agrees artifact.content.toList ∧
      (artifact.kind = "controller" → ImportsWhatItMakes artifact.content.toList) := by
  intro artifact member
  obtain ⟨draft, drafted, made⟩ := exists_draft_of_provide known provided member
  obtain ⟨rendered, -, kind_eq⟩ := Draft.artifact_eq_ok_iff.1 made
  rw [kind_eq]
  exact agrees_of_isDraftOf drafted listed foreign distinct rendered

/-- A request for a controller that authorizes and logs and does not trace. -/
def userController : Request where
  command := "make:controller"
  name := "UserController"
  params := [("module", .text "Identity")]
  switches := [("logging", .truth true), ("tracing", .integer 0), ("auth", .text "yes")]
  project := []
  isDryRun := false

theorem imports_agree_with_uses_userController :
    controllerSpec ∈ catalogue ∧ controllerSpec.command ∈ observedCommands ∧
      (Keyed.keys userController.switches).Nodup ∧ userController.IsForeign controllerSpec ∧
      ∃ artifacts, controllerSpec.provide userController = .ok artifacts ∧
        ∀ artifact ∈ artifacts, Agrees artifact.content.toList ∧
          (artifact.kind = "controller" → ImportsWhatItMakes artifact.content.toList) := by
  have known : controllerSpec ∈ catalogue := by simp [catalogue]
  have listed : controllerSpec.command ∈ observedCommands := by decide
  have distinct : (Keyed.keys userController.switches).Nodup := by decide
  have foreign : userController.IsForeign controllerSpec := by
    have each : ∀ entry ∈ userController.params ++ userController.switches,
        IsForeignWord entry.2.display.toList := by
      decide
    exact ⟨⟨by decide, fun entry among _ => each entry among⟩,
      fun _ _ chosen => absurd chosen List.not_mem_nil⟩
  have made : (controllerSpec.provide userController).isOk = true := by decide +kernel
  cases provided : controllerSpec.provide userController with
  | error mishap =>
    rw [provided] at made
    cases made
  | ok artifacts =>
    exact ⟨known, listed, distinct, foreign, artifacts, rfl,
      imports_agree_with_uses known listed distinct foreign provided⟩

/-- A request for a job that is tried as often as a constant of a class says. -/
def triedJob : Request where
  command := "make:job"
  name := "SendJob"
  params := [("queue", .text "default"), ("tries", .text "StatusCode::STATUS_OK"),
    ("timeout", .integer 60)]
  switches := [("logging", .truth false), ("tracing", .truth false)]
  project := []
  isDryRun := false

/-- What is given for the tries of a job stands in it as it is, and no class in it is imported. -/
theorem not_agrees_of_class_as_tries :
    ¬∀ spec ∈ catalogue, spec.command ∈ observedCommands →
      ∀ request artifacts, (Keyed.keys request.switches).Nodup → request.HasForeignNames →
        spec.provide request = .ok artifacts →
        ∀ artifact ∈ artifacts, Agrees artifact.content.toList := by
  intro everywhere
  have known : jobSpec ∈ catalogue := by simp [catalogue]
  have listed : jobSpec.command ∈ observedCommands := by decide
  have distinct : (Keyed.keys triedJob.switches).Nodup := by decide
  have named : triedJob.HasForeignNames := by
    refine ⟨by decide, fun entry among given => ?_⟩
    have none : ∀ entry ∈ triedJob.params ++ triedJob.switches, entry.1 ∉ nameKeys := by decide
    exact absurd given (none entry among)
  have filled : "StatusCode".toList ∉ importedClasses (fill (valueIn (jobDraft triedJob).context)
        (listIn (jobDraft triedJob).context) (parts (answerOf (jobDraft triedJob).context) job)) ∧
      "    public int $tries = StatusCode::STATUS_OK;".toList ∈
        (fill (valueIn (jobDraft triedJob).context) (listIn (jobDraft triedJob).context)
          (parts (answerOf (jobDraft triedJob).context) job)).splitOn '\n' := by
    decide +kernel
  have made : (jobSpec.provide triedJob).isOk = true := by decide +kernel
  cases provided : jobSpec.provide triedJob with
  | error mishap =>
    rw [provided] at made
    cases made
  | ok artifacts =>
    obtain ⟨artifact, drafted, same⟩ := Result.bind_eq_ok_iff.1 provided
    cases same
    have made : (jobDraft triedJob).artifact = .ok artifact := drafted
    obtain ⟨rendered, -⟩ := Draft.artifact_eq_ok_iff.1 made
    have text_eq := toList_eq_fill job rendered
    rw [← text_eq] at filled
    obtain ⟨unimported, line⟩ := filled
    have agrees := everywhere jobSpec known listed triedJob _ distinct named provided artifact
      (List.mem_singleton_self _)
    refine unimported ((agrees.imported_iff_named "StatusCode" (by decide)).2 ⟨_, line, ?_, ?_⟩)
    · decide
    · decide

end Scaffold.Generator
