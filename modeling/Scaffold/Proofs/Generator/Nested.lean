import Mathlib.Data.Bool.AllAny
import Scaffold.Proofs.Generator.Drafted
import Scaffold.Proofs.Generator.Site
import Scaffold.Proofs.Template.Nested
import Scaffold.Proofs.Text.Kept

/-!
# Brackets in what is generated

Every file that a generator makes is nested, and begins and ends as a source file must, whatever the
switches are. All that it takes is that what the request gives as text holds no bracket.
-/

set_option autoImplicit false

namespace Scaffold

namespace Text

def bracketCodes : List Nat :=
  [40, 41, 91, 93, 123, 125]

theorem isBracket_iff {character : Char} :
    isBracket character = true ↔ character.toNat ∈ bracketCodes := by
  constructor
  · intro bracket
    unfold isBracket closing? isClosing at bracket
    split at bracket
    · decide
    · decide
    · decide
    · simp only [Option.isSome_none, Bool.false_or, Bool.or_eq_true, decide_eq_true_eq] at bracket
      rcases bracket with (rfl | rfl) | rfl
      · decide
      · decide
      · decide
  · intro listed
    exact of_toNat_mem listed (by decide)

theorem keptByCase_of_bracket : KeptByCase fun character => isBracket character = false := by
  have same : (fun character : Char => isBracket character = false) =
      fun character => character.toNat ∉ bracketCodes := by
    funext character
    rw [← isBracket_iff, Bool.not_eq_true]
  rw [same]
  exact keptByCase_of_codes bracketCodes (by decide +kernel) (by decide +kernel) (by decide +kernel)
    (List.all_iff_forall_prop.1 (by decide))

instance (text : List Char) : Decidable (Unbracketed text) :=
  List.decidableBAll (isBracket · = false) text

theorem unbracketed_append {front back : List Char} :
    Unbracketed (front ++ back) ↔ Unbracketed front ∧ Unbracketed back :=
  List.forall_mem_append

theorem unbracketed_pascalCase {text : String} (unbracketed : Unbracketed text.toList) :
    Unbracketed (pascalCase text).toList := by
  rw [pascalCase, String.toList_ofList]
  exact forall_mem_pascal keptByCase_of_bracket unbracketed

theorem unbracketed_snakeCase {text : String} (unbracketed : Unbracketed text.toList) :
    Unbracketed (snakeCase text).toList := by
  rw [snakeCase, String.toList_ofList]
  exact forall_mem_snake keptByCase_of_bracket unbracketed

theorem unbracketed_kebabCase {text : String} (unbracketed : Unbracketed text.toList) :
    Unbracketed (kebabCase text).toList := by
  rw [kebabCase, String.toList_ofList]
  exact forall_mem_kebab keptByCase_of_bracket unbracketed

theorem unbracketed_lowerCase {text : String} (unbracketed : Unbracketed text.toList) :
    Unbracketed (lowerCase text).toList := by
  rw [lowerCase, String.toList_ofList]
  exact forall_mem_lower keptByCase_of_bracket unbracketed

theorem unbracketed_stripSuffix {text : String} (suffix : String)
    (unbracketed : Unbracketed text.toList) : Unbracketed (stripSuffix text suffix).toList :=
  forall_mem_stripSuffix suffix unbracketed

theorem unbracketed_string_append {front back : String} (unbracketedFront : Unbracketed front.toList)
    (unbracketedBack : Unbracketed back.toList) : Unbracketed (front ++ back).toList := by
  rw [String.toList_append]
  exact unbracketed_append.2 ⟨unbracketedFront, unbracketedBack⟩

end Text

namespace Generator

open Template Text

variable {spec : Spec} {request : Request} {draft : Draft} {added : Fields} {name : String}

/-- Whether the name of a request and all that it gives hold no bracket as text. The switches of its
generator are not looked at. -/
structure Request.IsUnbracketed (request : Request) (spec : Spec) : Prop where
  name : Unbracketed request.name.toList
  params : ∀ entry ∈ request.params, Unbracketed entry.2.display.toList
  switches : ∀ entry ∈ request.switches, entry.1 ∉ spec.switches →
    Unbracketed entry.2.display.toList

/-! ## What is written for a variable -/

/-- The variables of every request that are no text of it. -/
def wholeNames : List String :=
  ["command_id", "flags", "project"]

theorem unbracketed_context (unbracketed : request.IsUnbracketed spec) {value : Value}
    (apart : name ∉ wholeNames ++ spec.switches) (found : request.context.get? name = some value) :
    Unbracketed value.display.toList := by
  rw [List.mem_append, not_or] at apart
  obtain ⟨notWhole, unswitched⟩ := apart
  rcases Keyed.mem_of_get?_overlay found with fixed | below
  · simp only [List.mem_cons, List.not_mem_nil, or_false, Prod.mk.injEq] at fixed
    rcases fixed with ⟨-, rfl⟩ | ⟨rfl, -⟩ | ⟨rfl, -⟩ | ⟨rfl, -⟩
    · exact unbracketed.name
    · exact absurd (by decide) notWhole
    · exact absurd (by decide) notWhole
    · exact absurd (by decide) notWhole
  · rcases Keyed.mem_of_get?_overlay below with switched | given
    · exact unbracketed.switches _ switched unswitched
    · exact unbracketed.params _ (Keyed.mem_of_get?_eq_some given)

theorem unbracketed_standing : ∀ entry ∈ standing, Unbracketed entry.2.toList := by
  decide

theorem unbracketed_value (unbracketed : request.IsUnbracketed spec)
    (addedUnbracketed : ∀ value, (name, value) ∈ added → Unbracketed value.display.toList)
    (apart : name ∉ wholeNames ++ spec.switches) {text : String}
    (rendered : renderPiece (contextWith request added) (.value name) = .ok text) :
    Unbracketed text.toList := by
  rw [renderPiece] at rendered
  obtain ⟨value, looked, same⟩ := Result.bind_eq_ok_iff.1 rendered
  cases same
  unfold variableOf at looked
  split at looked
  · next held found =>
    cases looked
    rcases Keyed.mem_of_get?_overlay found with among | below
    · exact addedUnbracketed _ among
    · exact unbracketed_context unbracketed apart below
  · split at looked
    · next content there =>
      cases looked
      obtain ⟨before, after, split, -⟩ := List.lookup_eq_some_iff.1 there
      have among : (name, content) ∈ standing := by
        rw [split]
        exact List.mem_append_right before List.mem_cons_self
      exact unbracketed_standing _ among
    · cases looked

theorem unbracketed_intercalate {parts : List (List Char)}
    (each : ∀ part ∈ parts, Unbracketed part) : Unbracketed (['\n'].intercalate parts) :=
  forall_mem_intercalate (List.all_iff_forall_prop.1 (by decide)) each

theorem unbracketed_imports {names : List String} (each : ∀ listed ∈ names, Unbracketed listed.toList)
    (found : (contextWith request added).get? name = some (nameList names)) {text : String}
    (rendered : renderPiece (contextWith request added) (.imports name) = .ok text) :
    Unbracketed text.toList := by
  rw [renderPiece_imports_of_get? found] at rendered
  cases rendered
  rw [String.toList_intercalate, List.map_map]
  refine unbracketed_intercalate (List.forall_mem_map.2 fun listed member => ?_)
  exact unbracketed_string_append (unbracketed_string_append (by decide) (each listed member))
    (by decide)

/-- A template writes no bracket for its variables if those that are added for it hold none. -/
theorem writesUnbracketed_contextWith (template : Template) (unbracketed : request.IsUnbracketed spec)
    (addedUnbracketed : ∀ entry ∈ added, entry.1 ∈ written template →
      Unbracketed entry.2.display.toList)
    (listed : ∀ name ∈ imported template, ∃ names,
      (contextWith request added).get? name = some (nameList names) ∧
        ∀ listed ∈ names, Unbracketed listed.toList)
    (apart : ∀ name ∈ written template, name ∉ wholeNames ++ spec.switches) :
    WritesUnbracketed (contextWith request added) (written template) (imported template) where
  values name member text rendered :=
    unbracketed_value unbracketed (fun _ among => addedUnbracketed _ among member)
      (apart name member) rendered
  listed name member text rendered := by
    obtain ⟨names, found, each⟩ := listed name member
    exact unbracketed_imports each found rendered

/-! ## The drafts -/

theorem exists_unbracketed {context : Fields} {base : List String} {groups : List ImportGroup}
    (grouped : List String)
    (found : context.get? name = some (nameList (importNames base groups)))
    (always : ∀ listed ∈ base, Unbracketed listed.toList)
    (grouped_eq : groups.flatMap ImportGroup.names = grouped)
    (each : ∀ listed ∈ grouped, Unbracketed listed.toList) :
    ∃ names, context.get? name = some (nameList names) ∧
      ∀ listed ∈ names, Unbracketed listed.toList := by
  refine ⟨_, found, forall_mem_importNames always fun group among listed member => ?_⟩
  refine each listed ?_
  rw [← grouped_eq]
  exact List.mem_flatMap.2 ⟨group, among, member⟩

theorem unbracketed_requestImports {shortName : String}
    (unbracketed : Unbracketed shortName.toList) :
    ∀ name ∈ requestImports shortName, Unbracketed name.toList := by
  have logic : Unbracketed
      ("Core\\Application\\Logics\\" ++ shortName ++ "\\" ++ shortName).toList :=
    unbracketed_string_append (unbracketed_string_append
      (unbracketed_string_append (by decide) unbracketed) (by decide)) unbracketed
  refine List.forall_mem_append.2 ⟨List.forall_mem_map.2 fun verb member => ?_,
    List.forall_mem_map.2 fun plural member => ?_⟩
  · have verbs : ∀ verb ∈ ["Create", "Update", "Delete"], Unbracketed verb.toList := by decide
    exact unbracketed_string_append (unbracketed_string_append
      (unbracketed_string_append logic (by decide)) (verbs verb member)) unbracketed
  · have plurals : ∀ plural ∈ ["", "s"], Unbracketed plural.toList := by decide
    exact unbracketed_string_append (unbracketed_string_append
      (unbracketed_string_append logic (by decide)) unbracketed) (plurals plural member)

theorem unbracketed_short (unbracketed : request.IsUnbracketed spec) (suffix : String) :
    Unbracketed (stripSuffix request.name suffix).toList :=
  unbracketed_stripSuffix suffix unbracketed.name

theorem unbracketed_given (unbracketed : request.IsUnbracketed spec) {value : Value}
    (found : request.params.get? name = some value) : Unbracketed value.display.toList :=
  unbracketed.params _ (Keyed.mem_of_get?_eq_some found)

theorem writesUnbracketed_listener (unbracketed : request.IsUnbracketed listenerSpec)
    {tracing logging : Bool} :
    WritesUnbracketed (listenerDraft request tracing logging).context (written listener)
      (imported listener) := by
  refine writesUnbracketed_contextWith listener unbracketed ?_ ?_ (by decide)
  · simp only [List.forall_mem_cons]
    exact ⟨fun _ => unbracketed_short unbracketed _, fun among => absurd among (by decide), nofun⟩
  · have importing : imported listener = ["imports"] := by decide
    rw [importing, List.forall_mem_singleton]
    exact exists_unbracketed [tracerImport, loggerImport]
      (get?_contextWith_of_mem (by simp [Keyed.keys]) (List.mem_cons_of_mem _ List.mem_cons_self))
      (by decide) rfl (by decide)

theorem writesUnbracketed_controller (unbracketed : request.IsUnbracketed controllerSpec)
    {module : String} {auth logging tracing : Bool}
    (found : request.params.get? "module" = some (.text module)) :
    WritesUnbracketed (controllerDraft request module auth logging tracing).context
      (written controller) (imported controller) := by
  have short := unbracketed_short unbracketed "Controller"
  have area : Unbracketed module.toList := unbracketed_given unbracketed found
  refine writesUnbracketed_contextWith controller unbracketed ?_ ?_ (by decide)
  · simp only [List.forall_mem_cons]
    exact ⟨fun _ => short, fun _ => unbracketed_lowerCase short, fun _ => unbracketed_kebabCase area,
      fun among => absurd among (by decide), nofun⟩
  · have importing : imported controller = ["imports"] := by decide
    rw [importing, List.forall_mem_singleton]
    refine exists_unbracketed
      [authorizeImport, authenticationImport, loggerImport, tracerImport]
      (get?_contextWith_of_mem (by simp [Keyed.keys]) (List.mem_cons_of_mem _ <|
        List.mem_cons_of_mem _ <| List.mem_cons_of_mem _ List.mem_cons_self)) ?_ rfl (by decide)
    exact List.forall_mem_append.2 ⟨by decide, unbracketed_requestImports short⟩

/-- A request class and its handler have the same variables. -/
theorem writesUnbracketed_request (template : Template) (unbracketed : request.IsUnbracketed spec)
    {kind folder : String} {module entity : Value} {tracing logging : Bool}
    (ofKind : Unbracketed kind.toList) (ofFolder : Unbracketed folder.toList)
    (moduleFound : request.params.get? "module" = some module)
    (entityFound : request.params.get? "entity" = some entity)
    (unwritten : "handler_imports" ∉ written template)
    (importing : ∀ name ∈ imported template, name = "handler_imports")
    (apart : ∀ name ∈ written template, name ∉ wholeNames ++ spec.switches) :
    WritesUnbracketed
      (requestContext kind folder request module.display entity.display tracing logging)
      (written template) (imported template) := by
  have ofModule := unbracketed_given unbracketed moduleFound
  have ofEntity := unbracketed_given unbracketed entityFound
  have separator : Unbracketed "\\".toList := by decide
  have space : Unbracketed ("Core\\Application\\Logics\\" ++ module.display ++ "\\" ++
      entity.display ++ "\\" ++ folder).toList :=
    unbracketed_string_append (unbracketed_string_append (unbracketed_string_append
      (unbracketed_string_append (unbracketed_string_append (by decide) ofModule) separator)
      ofEntity) separator) ofFolder
  refine writesUnbracketed_contextWith template unbracketed ?_ ?_ apart
  · simp only [List.forall_mem_cons]
    exact ⟨fun _ => space, fun _ => ofKind, fun among => absurd among unwritten, nofun⟩
  · intro name member
    rw [importing name member]
    exact exists_unbracketed [statusImport, tracerImport, loggerImport]
      (get?_contextWith_of_mem (by simp [Keyed.keys]) (List.mem_cons_of_mem _ <|
        List.mem_cons_of_mem _ List.mem_cons_self)) (by decide) rfl (by decide)

theorem writesUnbracketed_of_isDraftOf (unbracketed : request.IsUnbracketed spec)
    (drafted : IsDraftOf request spec draft) :
    WritesUnbracketed draft.context (written draft.template) (imported draft.template) := by
  have given {name : String} {value : Value} (found : request.params.get? name = some value) :
      Unbracketed value.display.toList :=
    unbracketed_given unbracketed found
  have short (suffix : String) := unbracketed_short unbracketed suffix
  cases drafted with
  | job =>
    refine writesUnbracketed_contextWith job unbracketed ?_ nofun (by decide)
    simp only [List.forall_mem_cons]
    exact ⟨fun _ => short _, nofun⟩
  | seeder => exact writesUnbracketed_contextWith seeder unbracketed nofun nofun (by decide)
  | event module =>
    refine writesUnbracketed_contextWith event unbracketed ?_ nofun (by decide)
    simp only [List.forall_mem_cons]
    exact ⟨fun _ => unbracketed_pascalCase (given module), fun _ => short _, nofun⟩
  | entity schema =>
    refine writesUnbracketed_contextWith entity unbracketed ?_ nofun (by decide)
    simp only [List.forall_mem_cons]
    exact ⟨fun _ => unbracketed_pascalCase (given schema), fun _ =>
      unbracketed_string_append (unbracketed_snakeCase unbracketed.name) (by decide), nofun⟩
  | trait type =>
    refine writesUnbracketed_contextWith trait unbracketed ?_ nofun (by decide)
    simp only [List.forall_mem_cons]
    have typed := given type
    exact ⟨fun _ => typed, fun _ => short _,
      fun _ => unbracketed_string_append (by decide) (short _),
      fun _ => unbracketed_string_append (short _) (by decide), nofun⟩
  | infrastructure makes folder =>
    cases makes with
    | service =>
      refine writesUnbracketed_contextWith service unbracketed ?_ nofun (by decide)
      simp only [List.forall_mem_cons]
      exact ⟨fun _ => unbracketed_pascalCase (given folder), fun _ => short _, nofun⟩
    | middleware =>
      refine writesUnbracketed_contextWith middleware unbracketed ?_ nofun (by decide)
      simp only [List.forall_mem_cons]
      exact ⟨fun _ => unbracketed_pascalCase (given folder), fun _ => short _, nofun⟩
  | listener tracing logging => exact writesUnbracketed_listener unbracketed
  | controller module auth logging tracing =>
    exact writesUnbracketed_controller unbracketed module
  | request makes module entity tracing logging =>
    cases makes with
    | command =>
      exact writesUnbracketed_request command unbracketed (by decide) (by decide) module entity
        (by decide) nofun (by decide)
    | query =>
      exact writesUnbracketed_request query unbracketed (by decide) (by decide) module entity
        (by decide) nofun (by decide)
  | handler makes module entity tracing logging =>
    have importing : ∀ name ∈ imported handler, name = "handler_imports" := by decide
    cases makes with
    | command =>
      exact writesUnbracketed_request handler unbracketed (by decide) (by decide) module entity
        (by decide) importing (by decide)
    | query =>
      exact writesUnbracketed_request handler unbracketed (by decide) (by decide) module entity
        (by decide) importing (by decide)

theorem exists_named_of_isDraftOf (drafted : IsDraftOf request spec draft) :
    ∃ name, (name, draft.template) ∈ all := by
  cases drafted with
  | job => exact ⟨"job.php.j2", Keyed.mem_of_get?_eq_some rfl⟩
  | seeder => exact ⟨"seeder.php.j2", Keyed.mem_of_get?_eq_some rfl⟩
  | event => exact ⟨"event.php.j2", Keyed.mem_of_get?_eq_some rfl⟩
  | entity => exact ⟨"entity.php.j2", Keyed.mem_of_get?_eq_some rfl⟩
  | trait => exact ⟨"trait.php.j2", Keyed.mem_of_get?_eq_some rfl⟩
  | infrastructure makes =>
    cases makes with
    | service => exact ⟨"service.php.j2", Keyed.mem_of_get?_eq_some rfl⟩
    | middleware => exact ⟨"middleware.php.j2", Keyed.mem_of_get?_eq_some rfl⟩
  | listener => exact ⟨"listener.php.j2", Keyed.mem_of_get?_eq_some rfl⟩
  | controller => exact ⟨"controller.php.j2", Keyed.mem_of_get?_eq_some rfl⟩
  | request makes =>
    cases makes with
    | command => exact ⟨"command.php.j2", Keyed.mem_of_get?_eq_some rfl⟩
    | query => exact ⟨"query.php.j2", Keyed.mem_of_get?_eq_some rfl⟩
  | handler => exact ⟨"handler.php.j2", Keyed.mem_of_get?_eq_some rfl⟩

/-- Every file that a generator makes for a request without brackets is nested, and begins and ends as
a source file must. -/
theorem isFile_of_provide (known : spec ∈ catalogue) (unbracketed : request.IsUnbracketed spec)
    {artifacts : List Artifact} (provided : spec.provide request = .ok artifacts) :
    ∀ artifact ∈ artifacts, IsFile artifact.content := by
  intro artifact member
  obtain ⟨draft, drafted, made⟩ := exists_draft_of_provide known provided member
  obtain ⟨rendered, -⟩ := Draft.artifact_eq_ok_iff.1 made
  obtain ⟨name, among⟩ := exists_named_of_isDraftOf drafted
  exact isFile_of_render among (writesUnbracketed_of_isDraftOf unbracketed drafted) rendered

/-- A request for a traced command that logs nothing and is told so in words with brackets. -/
def tracedRequest : Request where
  command := "make:command"
  name := "CreateUser"
  params := [("module", .text "Identity"), ("entity", .text "User")]
  switches := [("logging", .text ""), ("tracing", .text "(yes]"), ("releaseEntity", .null)]
  project := []
  isDryRun := false

theorem isFile_of_provide_tracedRequest :
    commandSpec ∈ catalogue ∧ tracedRequest.IsUnbracketed commandSpec ∧
      ∃ artifacts, commandSpec.provide tracedRequest = .ok artifacts ∧
        ∀ artifact ∈ artifacts, IsFile artifact.content := by
  have known : commandSpec ∈ catalogue := List.mem_cons_self
  have unbracketed : tracedRequest.IsUnbracketed commandSpec := ⟨by decide, by decide, by decide⟩
  have made : (commandSpec.provide tracedRequest).isOk = true := by decide +kernel
  cases provided : commandSpec.provide tracedRequest with
  | error mishap =>
    rw [provided] at made
    cases made
  | ok artifacts =>
    exact ⟨known, unbracketed, artifacts, rfl, isFile_of_provide known unbracketed provided⟩

end Generator

end Scaffold
