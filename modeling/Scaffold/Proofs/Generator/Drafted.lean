import Scaffold.Proofs.Generator.Provide
import Scaffold.Proofs.Result

/-!
# Drafts of any request

The files that a provider makes for a request that nothing is known of: whatever it gives is made of
drafts, which depend on the parameters and switches that it found.
-/

set_option autoImplicit false

namespace Scaffold.Generator

/-- The generators of requests, with the kind, the folder and the template of each. -/
inductive MakesRequests : Spec → String → String → Template → Prop where
  | command : MakesRequests commandSpec "command" "Commands" Template.command
  | query : MakesRequests querySpec "query" "Queries" Template.query

/-- The generators for the infrastructure, with the kind, the suffix and the template of each. -/
inductive MakesInfrastructure : Spec → String → String → Template → Prop where
  | service : MakesInfrastructure serviceSpec "service" "Service" Template.service
  | middleware : MakesInfrastructure middlewareSpec "middleware" "Middleware" Template.middleware

/-- The drafts that a generator makes artifacts of for a request. -/
inductive IsDraftOf (request : Request) : Spec → Draft → Prop where
  | job : IsDraftOf request jobSpec (jobDraft request)
  | seeder : IsDraftOf request seederSpec (seederDraft request)
  | event {module : Value} : request.params.get? "module" = some module →
      IsDraftOf request eventSpec (eventDraft request (Text.pascalCase module.display))
  | entity {schema : Value} : request.params.get? "schema" = some schema →
      IsDraftOf request entitySpec (entityDraft request (Text.pascalCase schema.display))
  | trait {type : Value} : request.params.get? "type" = some type →
      IsDraftOf request traitSpec (traitDraft request type.display)
  | infrastructure {spec : Spec} {kind suffix : String} {template : Template} {folder : Value} :
      MakesInfrastructure spec kind suffix template → request.params.get? "folder" = some folder →
      IsDraftOf request spec
        (infrastructureDraft kind suffix template request (Text.pascalCase folder.display))
  | listener {tracing logging : Value} : request.switches.get? "tracing" = some tracing →
      request.switches.get? "logging" = some logging →
      IsDraftOf request listenerSpec (listenerDraft request tracing.holds logging.holds)
  | controller {module : String} {auth logging tracing : Value} :
      request.params.get? "module" = some (.text module) →
      request.switches.get? "auth" = some auth → request.switches.get? "logging" = some logging →
      request.switches.get? "tracing" = some tracing →
      IsDraftOf request controllerSpec
        (controllerDraft request module auth.holds logging.holds tracing.holds)
  | request {spec : Spec} {kind folder : String} {template : Template}
      {module entity tracing logging : Value} :
      MakesRequests spec kind folder template → request.params.get? "module" = some module →
      request.params.get? "entity" = some entity → request.switches.get? "tracing" = some tracing →
      request.switches.get? "logging" = some logging →
      IsDraftOf request spec (requestDraft kind folder template request module.display
        entity.display tracing.holds logging.holds)
  | handler {spec : Spec} {kind folder : String} {template : Template}
      {module entity tracing logging : Value} :
      MakesRequests spec kind folder template → request.params.get? "module" = some module →
      request.params.get? "entity" = some entity → request.switches.get? "tracing" = some tracing →
      request.switches.get? "logging" = some logging →
      IsDraftOf request spec (handlerDraft kind folder request module.display entity.display
        tracing.holds logging.holds)

variable {spec : Spec} {request : Request} {name text : String} {value : Value} {truth : Bool}
  {artifacts : List Artifact} {artifact : Artifact}

/-! ## What is found in a request -/

theorem get?_params_of_param (found : param request name = .ok value) :
    request.params.get? name = some value := by
  have looked := Result.mapError_eq_ok_iff.1 found
  unfold Request.param at looked
  split at looked
  · next held there =>
    cases looked
    exact there
  · cases looked

theorem exists_of_paramText (found : paramText request name = .ok text) :
    ∃ value, request.params.get? name = some value ∧ text = value.display := by
  obtain ⟨value, there, same⟩ := Result.bind_eq_ok_iff.1 found
  cases same
  exact ⟨value, get?_params_of_param there, rfl⟩

theorem exists_of_isOn (found : isOn request name = .ok truth) :
    ∃ value, request.switches.get? name = some value ∧ truth = value.holds := by
  have looked := Result.mapError_eq_ok_iff.1 found
  unfold Request.isOn at looked
  split at looked
  · next held there =>
    cases looked
    exact ⟨held, there, rfl⟩
  · cases looked

theorem exists_of_kebab (converted : kebab value = .ok text) :
    ∃ content, value = .text content ∧ text = Text.kebabCase content := by
  have applied := Result.mapError_eq_ok_iff.1 converted
  cases value with
  | text content =>
    cases applied
    exact ⟨content, rfl, rfl⟩
  | _ => cases applied

/-! ## What each provider makes -/

theorem made_of_one {draft : Draft}
    (provided : (do return [← draft.artifact] : Except Mishap (List Artifact)) = .ok artifacts)
    (member : artifact ∈ artifacts) : draft.artifact = .ok artifact := by
  obtain ⟨only, made, same⟩ := Result.bind_eq_ok_iff.1 provided
  cases same
  rw [List.mem_singleton.1 member]
  exact made

theorem exists_draft_of_event (provided : provideEvent request = .ok artifacts)
    (member : artifact ∈ artifacts) :
    ∃ draft, IsDraftOf request eventSpec draft ∧ draft.artifact = .ok artifact := by
  obtain ⟨_, found, provided⟩ := Result.bind_eq_ok_iff.1 provided
  obtain ⟨module, there, rfl⟩ := exists_of_paramText found
  exact ⟨_, .event there, made_of_one provided member⟩

theorem exists_draft_of_entity (provided : provideEntity request = .ok artifacts)
    (member : artifact ∈ artifacts) :
    ∃ draft, IsDraftOf request entitySpec draft ∧ draft.artifact = .ok artifact := by
  obtain ⟨_, found, provided⟩ := Result.bind_eq_ok_iff.1 provided
  obtain ⟨schema, there, rfl⟩ := exists_of_paramText found
  exact ⟨_, .entity there, made_of_one provided member⟩

theorem exists_draft_of_trait (provided : provideTrait request = .ok artifacts)
    (member : artifact ∈ artifacts) :
    ∃ draft, IsDraftOf request traitSpec draft ∧ draft.artifact = .ok artifact := by
  obtain ⟨_, found, provided⟩ := Result.bind_eq_ok_iff.1 provided
  obtain ⟨type, there, rfl⟩ := exists_of_paramText found
  exact ⟨_, .trait there, made_of_one provided member⟩

theorem exists_draft_of_infrastructure {kind suffix : String} {template : Template}
    (makes : MakesInfrastructure spec kind suffix template)
    (provided : provideInfrastructure kind suffix template request = .ok artifacts)
    (member : artifact ∈ artifacts) :
    ∃ draft, IsDraftOf request spec draft ∧ draft.artifact = .ok artifact := by
  obtain ⟨_, found, provided⟩ := Result.bind_eq_ok_iff.1 provided
  obtain ⟨folder, there, rfl⟩ := exists_of_paramText found
  exact ⟨_, .infrastructure makes there, made_of_one provided member⟩

theorem exists_draft_of_listener (provided : provideListener request = .ok artifacts)
    (member : artifact ∈ artifacts) :
    ∃ draft, IsDraftOf request listenerSpec draft ∧ draft.artifact = .ok artifact := by
  obtain ⟨_, traced, provided⟩ := Result.bind_eq_ok_iff.1 provided
  obtain ⟨_, logged, provided⟩ := Result.bind_eq_ok_iff.1 provided
  obtain ⟨tracing, tracingThere, rfl⟩ := exists_of_isOn traced
  obtain ⟨logging, loggingThere, rfl⟩ := exists_of_isOn logged
  exact ⟨_, .listener tracingThere loggingThere, made_of_one provided member⟩

theorem exists_draft_of_controller (provided : provideController request = .ok artifacts)
    (member : artifact ∈ artifacts) :
    ∃ draft, IsDraftOf request controllerSpec draft ∧ draft.artifact = .ok artifact := by
  obtain ⟨_, found, provided⟩ := Result.bind_eq_ok_iff.1 provided
  obtain ⟨_, converted, provided⟩ := Result.bind_eq_ok_iff.1 provided
  obtain ⟨_, authorized, provided⟩ := Result.bind_eq_ok_iff.1 provided
  obtain ⟨_, logged, provided⟩ := Result.bind_eq_ok_iff.1 provided
  obtain ⟨_, traced, provided⟩ := Result.bind_eq_ok_iff.1 provided
  obtain ⟨module, rfl, rfl⟩ := exists_of_kebab converted
  obtain ⟨auth, authThere, rfl⟩ := exists_of_isOn authorized
  obtain ⟨logging, loggingThere, rfl⟩ := exists_of_isOn logged
  obtain ⟨tracing, tracingThere, rfl⟩ := exists_of_isOn traced
  exact ⟨_, .controller (get?_params_of_param found) authThere loggingThere tracingThere,
    made_of_one provided member⟩

theorem exists_draft_of_request {kind folder : String} {template : Template}
    (makes : MakesRequests spec kind folder template)
    (provided : provideRequest kind folder template request = .ok artifacts)
    (member : artifact ∈ artifacts) :
    ∃ draft, IsDraftOf request spec draft ∧ draft.artifact = .ok artifact := by
  obtain ⟨_, moduleFound, provided⟩ := Result.bind_eq_ok_iff.1 provided
  obtain ⟨_, entityFound, provided⟩ := Result.bind_eq_ok_iff.1 provided
  obtain ⟨_, traced, provided⟩ := Result.bind_eq_ok_iff.1 provided
  obtain ⟨_, logged, provided⟩ := Result.bind_eq_ok_iff.1 provided
  obtain ⟨module, moduleThere, rfl⟩ := exists_of_paramText moduleFound
  obtain ⟨entity, entityThere, rfl⟩ := exists_of_paramText entityFound
  obtain ⟨tracing, tracingThere, rfl⟩ := exists_of_isOn traced
  obtain ⟨logging, loggingThere, rfl⟩ := exists_of_isOn logged
  obtain ⟨first, madeFirst, provided⟩ := Result.bind_eq_ok_iff.1 provided
  obtain ⟨second, madeSecond, same⟩ := Result.bind_eq_ok_iff.1 provided
  cases same
  rcases List.mem_cons.1 member with rfl | other
  · exact ⟨_, .request makes moduleThere entityThere tracingThere loggingThere, madeFirst⟩
  · rw [List.mem_singleton.1 other]
    exact ⟨_, .handler makes moduleThere entityThere tracingThere loggingThere, madeSecond⟩

/-- Whatever a generator provides is made of its drafts for the request. -/
theorem exists_draft_of_provide (known : spec ∈ catalogue)
    (provided : spec.provide request = .ok artifacts) (member : artifact ∈ artifacts) :
    ∃ draft, IsDraftOf request spec draft ∧ draft.artifact = .ok artifact := by
  simp only [catalogue, List.mem_cons, List.not_mem_nil, or_false] at known
  rcases known with rfl | rfl | rfl | rfl | rfl | rfl | rfl | rfl | rfl | rfl | rfl
  · exact exists_draft_of_request .command provided member
  · exact exists_draft_of_request .query provided member
  · exact exists_draft_of_controller provided member
  · exact ⟨_, .job, made_of_one provided member⟩
  · exact exists_draft_of_event provided member
  · exact exists_draft_of_listener provided member
  · exact exists_draft_of_infrastructure .service provided member
  · exact exists_draft_of_infrastructure .middleware provided member
  · exact exists_draft_of_entity provided member
  · exact ⟨_, .seeder, made_of_one provided member⟩
  · exact exists_draft_of_trait provided member

end Scaffold.Generator
