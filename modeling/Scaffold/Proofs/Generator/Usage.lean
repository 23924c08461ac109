import Scaffold.Proofs.Generator.Drafted
import Scaffold.Proofs.Generator.Site
import Scaffold.Proofs.Template.Making
import Scaffold.Proofs.Text.Kept

/-!
# Imports, declarations and uses in what is generated

Handlers, controllers, listeners and jobs import, declare and use classes and variables as their
switches say. Whatever the switches are, imports agree with what is named, and declarations and
assignments with what is used.
-/

set_option autoImplicit false

namespace Scaffold

namespace Text

/-- The codes of the characters that end lines, part words, open brackets and mark variables. -/
def markCodes : List Nat :=
  [10, 32, 36, 40, 62]

/-- Whether a text has no mark. -/
def IsUnmarked (text : List Char) : Prop :=
  ∀ character ∈ text, character.toNat ∉ markCodes

theorem keptByCase_of_markCodes : KeptByCase fun character => character.toNat ∉ markCodes :=
  keptByCase_of_codes markCodes (by decide +kernel) (by decide +kernel) (by decide +kernel)
    (List.all_iff_forall_prop.1 (by decide))

theorem isUnmarked_of_words {text : List Char} (words : ∀ character ∈ text, isWord character) :
    IsUnmarked text := by
  intro character among listed
  have unword : isWord character = false := of_toNat_mem listed (by decide)
  rw [words character among] at unword
  cases unword

theorem IsUnmarked.not_mem {text : List Char} (unmarked : IsUnmarked text) {mark : Char}
    (listed : mark.toNat ∈ markCodes) : mark ∉ text :=
  fun among => unmarked mark among listed

theorem isUnmarked_lowerCase {text : String} (unmarked : IsUnmarked text.toList) :
    IsUnmarked (lowerCase text).toList := by
  rw [lowerCase, String.toList_ofList]
  exact forall_mem_lower keptByCase_of_markCodes unmarked

theorem isUnmarked_kebabCase {text : String} (unmarked : IsUnmarked text.toList) :
    IsUnmarked (kebabCase text).toList := by
  rw [kebabCase, String.toList_ofList]
  exact forall_mem_kebab keptByCase_of_markCodes unmarked

theorem lowerOf_of_mem_lowerCase {text : String} :
    ∀ character ∈ (lowerCase text).toList, lowerOf character = [character] := by
  rw [lowerCase, String.toList_ofList]
  exact lowerOf_of_mem_lower

theorem lowerOf_of_mem_kebabCase {text : String} :
    ∀ character ∈ (kebabCase text).toList, lowerOf character = [character] := by
  rw [kebabCase, String.toList_ofList]
  refine List.forall_mem_map.2 fun character member => ?_
  unfold hyphenate
  split
  · decide
  · exact lowerOf_of_mem_lower character member

end Text

namespace Generator

open Source Template Text

variable {spec : Spec} {request : Request} {added : Fields} {name : String} {agreed : List Question}

/-! ## Values of a request -/

/-- The names that a request may give beside its own one. -/
def nameKeys : List String :=
  ["module", "entity", "event"]

/-- The variables of every request that none of its own is. -/
def ownNames : List String :=
  ["name", "command_id", "flags", "project"]

/-- Whether the names of a request are words without optional classes in them. -/
structure Request.HasForeignNames (request : Request) : Prop where
  name : IsForeignWord request.name.toList
  given : ∀ entry ∈ request.params ++ request.switches, entry.1 ∈ nameKeys →
    IsForeignWord entry.2.display.toList

/-- Whether the names of a request are words without optional classes in them, and the options of its
generator have no identifiers in them. -/
structure Request.IsForeign (request : Request) (spec : Spec) : Prop extends
    request.HasForeignNames where
  chosen : ∀ entry ∈ request.params ++ request.switches, entry.1 ∈ Keyed.keys spec.options →
    Source.IsForeign entry.2.display.toList

theorem mem_of_get?_context {value : Value} (free : name ∉ ownNames)
    (found : request.context.get? name = some value) :
    (name, value) ∈ request.params ++ request.switches := by
  rcases Keyed.mem_of_get?_overlay found with fixed | below
  · have listed : name ∈ Keyed.keys [("name", Value.text request.name),
        ("command_id", .text request.command), ("flags", request.switches.toValue),
        ("project", request.project.toValue)] := List.mem_map_of_mem fixed
    exact absurd listed free
  · rcases Keyed.mem_of_get?_overlay below with switched | given
    · exact List.mem_append_right _ switched
    · exact List.mem_append_left _ (Keyed.mem_of_get?_eq_some given)

theorem valueIn_of_get? {context : Fields} {value : Value} (found : context.get? name = some value) :
    valueIn context name = value.display.toList := by
  rw [valueIn, renderPiece_value_of_get? found]
  rfl

theorem valueIn_of_text {context : Fields} {text : String}
    (found : context.get? name = some (.text text)) : valueIn context name = text.toList :=
  valueIn_of_get? found

/-- What holds of nothing and of the values of a request under some name holds of the variable with that
name. -/
theorem valueIn_of_given {holds : List Char → Prop} (nothing : holds [])
    (each : ∀ value, (name, value) ∈ request.params ++ request.switches → holds value.display.toList)
    (unadded : name ∉ Keyed.keys added) (free : name ∉ "namespace" :: ownNames) :
    holds (valueIn (contextWith request added) name) := by
  have looked : (contextWith request added).get? name = request.context.get? name :=
    Keyed.get?_overlay_of_not_mem unadded
  cases found : request.context.get? name with
  | some value =>
    rw [valueIn_of_get? (looked.trans found)]
    have unfixed : name ∉ ownNames := fun member => free (List.mem_cons_of_mem _ member)
    exact each value (mem_of_get?_context unfixed found)
  | none =>
    have unstanding : standing.lookup name = none := by
      rw [List.lookup_eq_none_iff]
      intro entry listed
      rw [List.mem_singleton.1 listed]
      exact bne_iff_ne.2 fun same => free (same ▸ by decide)
    have missing : renderPiece (contextWith request added) (.value name) = .error (.undefined name) := by
      rw [renderPiece, variableOf, looked.trans found, unstanding]
      rfl
    rw [valueIn, missing]
    exact nothing

theorem isForeignWord_name (foreign : request.HasForeignNames) (unadded : "name" ∉ Keyed.keys added) :
    IsForeignWord (valueIn (contextWith request added) "name") := by
  rw [valueIn_of_get? (get?_contextWith_name unadded)]
  exact foreign.name

theorem isForeignWord_given (foreign : request.HasForeignNames) (listed : name ∈ nameKeys)
    (unadded : name ∉ Keyed.keys added) :
    IsForeignWord (valueIn (contextWith request added) name) := by
  have free : ∀ name ∈ nameKeys, name ∉ "namespace" :: ownNames := by decide
  refine valueIn_of_given isForeignWord_nil (fun value among => ?_) unadded (free name listed)
  exact foreign.given _ among listed

theorem isForeign_chosen (foreign : request.IsForeign spec) (listed : name ∈ Keyed.keys spec.options)
    (unadded : name ∉ Keyed.keys added) (free : name ∉ "namespace" :: ownNames) :
    Source.IsForeign (valueIn (contextWith request added) name) :=
  valueIn_of_given isForeign_nil (fun _ among => foreign.chosen _ among listed) unadded free

theorem stripSuffix_isPrefix (name suffix : String) :
    (stripSuffix name suffix).toList <+: name.toList := by
  unfold stripSuffix
  split
  · rw [String.toList_ofList]
    exact List.take_prefix _ _
  · exact List.prefix_refl _

theorem isForeignWord_short (foreign : request.HasForeignNames) {suffix : String}
    (found : (contextWith request added).get? name =
      some (.text (stripSuffix request.name suffix))) :
    IsForeignWord (valueIn (contextWith request added) name) := by
  rw [valueIn_of_get? found]
  exact foreign.name.of_isInfix (stripSuffix_isPrefix _ _).isInfix

theorem listIn_of_get? {context : Fields} {names : List String}
    (found : context.get? name = some (nameList names)) :
    listIn context name = importBlock names := by
  rw [listIn, renderPiece_imports_of_get? found]
  simp only [Except.toOption, Option.getD_some, String.toList_intercalate, List.map_map]
  rfl

/-! ## Switches of a request -/

/-- A request has one value for each switch, and that is the variable with its name. -/
theorem answerOf_switch (distinct : (Keyed.keys request.switches).Nodup) {value : Value}
    (found : request.switches.get? name = some value) (unadded : name ∉ Keyed.keys added)
    (free : name ∉ ownNames) : answerOf (contextWith request added) (name, none) = value.holds := by
  have looked : (contextWith request added).get? name = request.context.get? name :=
    Keyed.get?_overlay_of_not_mem unadded
  have below : request.context.get? name = (request.params.overlay request.switches).get? name :=
    Keyed.get?_overlay_of_not_mem free
  have switched : (request.params.overlay request.switches).get? name = some value :=
    (Keyed.get?_overlay_of_nodup distinct name _).trans (found ▸ Option.some_or)
  rw [answerOf, variableOf, looked, below, switched]

theorem contains_eq {context : Fields} {asked : List Question} (question : Question)
    (agrees : ∀ question ∈ asked, (question ∈ agreed ↔ answerOf context question = true))
    (listed : question ∈ asked) : agreed.contains question = answerOf context question := by
  rw [Bool.eq_iff_iff, List.contains_iff_mem]
  exact agrees question listed

/-- A switch is agreed to if its value holds. -/
theorem contains_switch (distinct : (Keyed.keys request.switches).Nodup) {asked : List Question}
    (agrees : ∀ question ∈ asked,
      (question ∈ agreed ↔ answerOf (contextWith request added) question = true))
    {value : Value} (found : request.switches.get? name = some value)
    (listed : (name, none) ∈ asked) (unadded : name ∉ Keyed.keys added) (free : name ∉ ownNames) :
    agreed.contains (name, none) = value.holds := by
  rw [contains_eq _ agrees listed, answerOf_switch distinct found unadded free]

/-! ## Handlers -/

variable {content : String}

/-- The parts of the namespace of a request and its handler. -/
def spaceParts (folder : String) : List Part :=
  [.fixed "Core\\Application\\Logics\\".toList, .value "module", .fixed "\\".toList,
    .value "entity", .fixed ("\\".toList ++ folder.toList)]

theorem isFiller_space {wanted : String → Bool} {module entity folder : String}
    (ofModule : IsForeignWord module.toList) (ofEntity : IsForeignWord entity.toList)
    (isPath : IsPath (spaceParts folder)) :
    IsFiller wanted
      ("Core\\Application\\Logics\\" ++ module ++ "\\" ++ entity ++ "\\" ++ folder).toList := by
  have text_eq :
      ("Core\\Application\\Logics\\" ++ module ++ "\\" ++ entity ++ "\\" ++ folder).toList =
        fill (fun name => if name = "module" then module.toList else entity.toList) (fun _ => [])
          (spaceParts folder) := by
    simp [spaceParts, fill, Part.text]
  rw [text_eq]
  refine isPath.isFiller fun name => ?_
  split
  · exact ofModule
  · exact ofEntity

theorem groupsFor_handler : ∀ agreed ∈ handlerQuestions.sublists,
    GroupsFor (wantedBy handlerClasses agreed)
      [⟨agreed.contains ("tracing", none), [statusImport, tracerImport]⟩,
        ⟨agreed.contains ("logging", none), [loggerImport]⟩] := by
  decide +kernel

theorem isPlainImport_handler : ∀ name ∈ handlerImports, IsPlainImport name := by
  decide +kernel

theorem isForeignWord_param (foreign : request.HasForeignNames) {value : Value}
    (listed : name ∈ nameKeys) (found : request.params.get? name = some value) :
    IsForeignWord value.display.toList :=
  foreign.given _ (List.mem_append_left _ (Keyed.mem_of_get?_eq_some found)) listed

/-- What is known of the kind of a request is what it is. -/
theorem valueIn_of_kindBy {context : Fields} {kind : String} {text : List Char}
    (listed : kind ∈ ["command", "query"]) (found : context.get? "request_kind" = some (.text kind))
    (agrees : ∀ question ∈ handlerQuestions, (question ∈ agreed ↔ answerOf context question = true))
    (known : kindBy agreed name = some text) : valueIn context name = text := by
  have told : agreed.contains ("request_kind", some "query") = (Value.text kind).isText "query" := by
    rw [contains_eq _ agrees (by decide), answerOf, variableOf, found]
  unfold kindBy at known
  split at known
  · next same =>
    subst same
    have kinds : ∀ kind ∈ ["command", "query"],
        kind.toList = if (Value.text kind).isText "query" then "query".toList
          else "command".toList := by
      decide
    rw [told, ← kinds kind listed] at known
    cases known
    exact valueIn_of_get? found
  · cases known

theorem agrees_handler (foreign : request.HasForeignNames)
    (distinct : (Keyed.keys request.switches).Nodup) {kind folder : String}
    {module entity tracing logging : Value}
    (listed : (kind, folder) ∈ [("command", "Commands"), ("query", "Queries")])
    (moduleFound : request.params.get? "module" = some module)
    (entityFound : request.params.get? "entity" = some entity)
    (tracingFound : request.switches.get? "tracing" = some tracing)
    (loggingFound : request.switches.get? "logging" = some logging)
    (rendered : handler.render (requestContext kind folder request module.display entity.display
      tracing.holds logging.holds) = .ok content) : Agrees content.toList := by
  obtain ⟨agreed, among, text_eq, agrees⟩ := exists_agreed handlerQuestions (by decide) rendered
  set context := requestContext kind folder request module.display entity.display tracing.holds
    logging.holds with context_eq
  have traced : agreed.contains ("tracing", none) = tracing.holds :=
    contains_switch distinct agrees tracingFound (by decide) (by simp [Keyed.keys]) (by decide)
  have logged : agreed.contains ("logging", none) = logging.holds :=
    contains_switch distinct agrees loggingFound (by decide) (by simp [Keyed.keys]) (by decide)
  have named : IsForeignWord (valueIn context "name") :=
    isForeignWord_name foreign (by simp [Keyed.keys])
  have ofKind : context.get? "request_kind" = some (.text kind) :=
    get?_contextWith_of_mem (by simp [Keyed.keys]) (by simp)
  have space : context.get? "namespace" = some (.text ("Core\\Application\\Logics\\" ++
      module.display ++ "\\" ++ entity.display ++ "\\" ++ folder)) :=
    get?_contextWith_of_mem (by simp [Keyed.keys]) List.mem_cons_self
  have imports : context.get? "handler_imports" = some (nameList (importNames handlerImports
      [⟨tracing.holds, [statusImport, tracerImport]⟩, ⟨logging.holds, [loggerImport]⟩])) :=
    get?_contextWith_of_mem (by simp [Keyed.keys]) (by simp)
  have kinds : ∀ entry ∈ [("command", "Commands"), ("query", "Queries")],
      entry.1 ∈ ["command", "query"] ∧ IsPath (spaceParts entry.2) := by
    decide
  obtain ⟨kindListed, isPath⟩ := kinds _ listed
  rw [text_eq, ← fill_map_bind fun _ _ => valueIn_of_kindBy kindListed ofKind agrees]
  have split : handlerGaps.partition (·.isBlock) =
      ([.imports "handler_imports"], [.value "namespace", .value "name"]) :=
    rfl
  refine agrees_fill (agreesBy_handler agreed among) (fills_of_partition split
    (List.forall_mem_singleton.2 named.words) ?_ (List.forall_mem_singleton.2
      ⟨_, importsFor_importNames (by decide) isPlainImport_handler ?_, listIn_of_get? imports⟩))
  · simp only [List.forall_mem_cons]
    refine ⟨?_, isFiller_of_isForeignWord named, List.forall_mem_nil _⟩
    rw [Part.text, valueIn_of_get? space]
    exact isFiller_space (isForeignWord_param foreign (by decide) moduleFound)
      (isForeignWord_param foreign (by decide) entityFound) isPath
  · rw [← traced, ← logged]
    exact groupsFor_handler agreed among

/-! ## Requests -/

theorem agrees_request (foreign : request.HasForeignNames) {kind folder : String} {template : Template}
    {module entity : Value} {tracing logging : Bool}
    (makes : MakesRequests spec kind folder template)
    (moduleFound : request.params.get? "module" = some module)
    (entityFound : request.params.get? "entity" = some entity)
    (rendered : template.render (requestContext kind folder request module.display entity.display
      tracing logging) = .ok content) : Agrees content.toList := by
  have known : template ∈ [command, query] ∧ IsPath (spaceParts folder) := by
    cases makes with
    | command => exact ⟨List.mem_cons_self, by decide⟩
    | query => exact ⟨List.mem_cons_of_mem _ List.mem_cons_self, by decide⟩
  obtain ⟨among, isPath⟩ := known
  have unasked : ∀ template ∈ [command, query], questions template = [] := by decide
  obtain ⟨agreed, none, text_eq, -⟩ := exists_agreed []
    (by rw [unasked template among]; exact List.forall_mem_nil _) rendered
  rw [List.sublists_nil, List.mem_singleton] at none
  subst none
  have named : IsForeignWord (valueIn (requestContext kind folder request module.display
      entity.display tracing logging) "name") :=
    isForeignWord_name foreign (by simp [Keyed.keys])
  have space : (requestContext kind folder request module.display entity.display tracing
      logging).get? "namespace" = some (.text ("Core\\Application\\Logics\\" ++
        module.display ++ "\\" ++ entity.display ++ "\\" ++ folder)) :=
    get?_contextWith_of_mem (by simp [Keyed.keys]) List.mem_cons_self
  rw [text_eq]
  have split : requestGaps.partition (·.isBlock) = ([], requestGaps) := rfl
  refine agrees_fill (agreesBy_request template among) (fills_of_partition split
    (List.forall_mem_singleton.2 named.words) ?_ (List.forall_mem_nil _))
  simp only [requestGaps, List.forall_mem_cons]
  refine ⟨?_, isFiller_of_isForeignWord named, List.forall_mem_nil _⟩
  rw [Part.text, valueIn_of_get? space]
  exact isFiller_space (isForeignWord_param foreign (by decide) moduleFound)
    (isForeignWord_param foreign (by decide) entityFound) isPath

/-! ## Listeners -/

theorem groupsFor_listener : ∀ agreed ∈ observedQuestions.sublists,
    GroupsFor (wantedBy observedClasses agreed)
      [⟨agreed.contains ("tracing", none), [tracerImport]⟩,
        ⟨agreed.contains ("logging", none), [loggerImport]⟩] := by
  decide

theorem isPlainImport_listener : ∀ name ∈ listenerImports, IsPlainImport name := by
  decide

theorem agrees_listener (foreign : request.HasForeignNames)
    (distinct : (Keyed.keys request.switches).Nodup) {tracing logging : Value}
    (tracingFound : request.switches.get? "tracing" = some tracing)
    (loggingFound : request.switches.get? "logging" = some logging)
    (rendered : listener.render (listenerDraft request tracing.holds logging.holds).context =
      .ok content) : Agrees content.toList := by
  obtain ⟨agreed, among, text_eq, agrees⟩ := exists_agreed observedQuestions (by decide) rendered
  set context := (listenerDraft request tracing.holds logging.holds).context
  have traced : agreed.contains ("tracing", none) = tracing.holds :=
    contains_switch distinct agrees tracingFound (by decide) (by simp [Keyed.keys]) (by decide)
  have logged : agreed.contains ("logging", none) = logging.holds :=
    contains_switch distinct agrees loggingFound (by decide) (by simp [Keyed.keys]) (by decide)
  have named : IsForeignWord (valueIn context "name") :=
    isForeignWord_name foreign (by simp [Keyed.keys])
  have short : IsForeignWord (valueIn context "short_name") :=
    isForeignWord_short foreign
      (get?_contextWith_of_mem (by simp [Keyed.keys]) List.mem_cons_self)
  have ofEvent : IsForeignWord (valueIn context "event") :=
    isForeignWord_given foreign (by decide) (by simp [Keyed.keys])
  have imports : context.get? "imports" = some (nameList (importNames listenerImports
      [⟨tracing.holds, [tracerImport]⟩, ⟨logging.holds, [loggerImport]⟩])) :=
    get?_contextWith_of_mem (by simp [Keyed.keys]) (by simp)
  rw [text_eq]
  have split : listenerGaps.partition (·.isBlock) =
      ([.imports "imports"], [.value "name", .value "short_name", .value "event"]) :=
    rfl
  refine agrees_fill (agreesBy_listener agreed among) (fills_of_partition split ?_ ?_
    (List.forall_mem_singleton.2
      ⟨_, importsFor_importNames (by decide) isPlainImport_listener ?_, listIn_of_get? imports⟩))
  · simp only [List.forall_mem_cons]
    exact ⟨named.words, short.words, ofEvent.words, List.forall_mem_nil _⟩
  · simp only [List.forall_mem_cons]
    exact ⟨isFiller_of_isForeignWord named, isFiller_of_isForeignWord short,
      isFiller_of_isForeignWord ofEvent, List.forall_mem_nil _⟩
  · rw [← traced, ← logged]
    exact groupsFor_listener agreed among

/-! ## Controllers -/

/-- The name that the class of a request is imported by. -/
def importName (sending : Sending) (shortName : String) : String :=
  "Core\\Application\\Logics\\" ++ shortName ++ "\\" ++ shortName ++ "\\" ++ sending.folder ++
    "\\" ++ sending.verb ++ shortName ++ sending.plural

/-- The requests that a controller sends, as it imports them. -/
def importedSendings : List Sending :=
  [⟨"command", "Commands", "Create", ""⟩, ⟨"command", "Commands", "Update", ""⟩,
    ⟨"command", "Commands", "Delete", ""⟩, ⟨"query", "Queries", "Get", ""⟩,
    ⟨"query", "Queries", "Get", "s"⟩]

theorem requestImports_eq (shortName : String) :
    requestImports shortName = importedSendings.map fun sending => importName sending shortName := by
  have command (verb : String) :
      "Core\\Application\\Logics\\" ++ shortName ++ "\\" ++ shortName ++ "\\Commands\\" ++ verb ++
        shortName = importName ⟨"command", "Commands", verb, ""⟩ shortName := by
    have split : "\\Commands\\" = "\\" ++ "Commands" ++ "\\" := rfl
    unfold importName
    simp only [split, String.append_assoc, String.append_empty]
  have query (plural : String) :
      "Core\\Application\\Logics\\" ++ shortName ++ "\\" ++ shortName ++ "\\Queries\\Get" ++
        shortName ++ plural = importName ⟨"query", "Queries", "Get", plural⟩ shortName := by
    have split : "\\Queries\\Get" = "\\" ++ "Queries" ++ "\\" ++ "Get" := rfl
    unfold importName
    simp only [split, String.append_assoc]
  unfold requestImports importedSendings
  simp only [List.map_cons, List.map_nil, command, query, List.cons_append, List.nil_append]

theorem mem_requestImports_iff {shortName : String} :
    name ∈ requestImports shortName ↔ ∃ sending ∈ sendings, importName sending shortName = name := by
  have same : importedSendings.Perm sendings := by decide
  rw [requestImports_eq, List.mem_map]
  exact exists_congr fun sending => and_congr_left' same.mem_iff

theorem toList_importLine (sending : Sending) (shortName : String) :
    (importLine (importName sending shortName)).toList =
      fill (fun _ => shortName.toList) (fun _ => []) sending.importParts := by
  have split : "use Core\\Application\\Logics\\".toList =
      "use ".toList ++ "Core\\Application\\Logics\\".toList := rfl
  unfold importName
  simp only [importLine, Sending.importParts, fill, Part.text, split,
    String.toList_append, List.flatMap_cons, List.flatMap_nil, List.append_assoc, List.append_nil]

theorem lastSegment_importName {sending : Sending} (listed : sending ∈ sendings) {shortName : String}
    (words : ∀ character ∈ shortName.toList, isWord character) :
    lastSegment (importName sending shortName) = sending.className shortName.toList := by
  have mark : "\\".toList = ['\\'] := rfl
  have split : (importName sending shortName).toList =
      ("Core\\Application\\Logics\\" ++ shortName ++ "\\" ++ shortName ++ "\\" ++
        sending.folder).toList ++ '\\' :: sending.className shortName.toList := by
    unfold importName
    simp only [Sending.className, String.toList_append, mark, List.append_assoc,
      List.cons_append, List.nil_append]
  have other : isWord '\\' = false := by decide
  rw [lastSegment, split]
  refine rtakeWhile_append_cons (by decide) fun character member => ?_
  have word := Sending.words_className listed words character member
  refine decide_eq_true fun same => ?_
  rw [same, other] at word
  cases word

/-! ## Jobs -/

theorem agrees_job (foreign : request.IsForeign jobSpec)
    (rendered : job.render (jobDraft request).context = .ok content) : Agrees content.toList := by
  obtain ⟨agreed, among, text_eq, -⟩ := exists_agreed observedQuestions (by decide) rendered
  have named : IsForeignWord (valueIn (jobDraft request).context "name") :=
    isForeignWord_name foreign.toHasForeignNames (by simp [Keyed.keys])
  have short : IsForeignWord (valueIn (jobDraft request).context "short_name") :=
    isForeignWord_short foreign.toHasForeignNames
      (get?_contextWith_of_mem (by simp [Keyed.keys]) (List.mem_singleton_self _))
  have chosen : ∀ name ∈ ["queue", "tries", "timeout"],
      Source.IsForeign (valueIn (jobDraft request).context name) := by
    intro name listed
    have options : ∀ name ∈ ["queue", "tries", "timeout"], name ∈ Keyed.keys jobSpec.options ∧
        name ≠ "short_name" ∧ name ∉ "namespace" :: ownNames := by
      decide
    obtain ⟨option, other, free⟩ := options name listed
    exact isForeign_chosen foreign option (fun among => other (List.mem_singleton.1 among)) free
  simp only [List.forall_mem_cons] at chosen
  obtain ⟨queue, tries, timeout, -⟩ := chosen
  rw [text_eq]
  have split : jobGaps.partition (·.isBlock) = ([], jobGaps) := rfl
  refine agrees_fill (agreesBy_job agreed among)
    (fills_of_partition split ?_ ?_ (List.forall_mem_nil _))
  · simp only [List.forall_mem_cons]
    exact ⟨named.words, short.words, List.forall_mem_nil _⟩
  · simp only [jobGaps, List.forall_mem_cons]
    exact ⟨isFiller_of_isForeign queue, isFiller_of_isForeign tries,
      isFiller_of_isForeign timeout, isFiller_of_isForeignWord named,
      isFiller_of_isForeignWord short, List.forall_mem_nil _⟩

end Generator

end Scaffold
