import Scaffold.Proofs.Generator.Precedence
import Scaffold.Proofs.Generator.Site
import Scaffold.Proofs.Template.Literal

/-!
# Options that are written as literals

The queue of a job and the connection of a seeder stand in the class that is made, between quotes and
as they were given. The literal denotes what was given only if that stands for itself there.
-/

set_option autoImplicit false

namespace Scaffold.Generator

open Template Text

/-- An option whose value a generator writes between quotes, and what the line of the literal begins
with, its opening quote included. -/
structure LiteralOption where
  spec : Spec
  option : String
  opening : String

def queueLiteral : LiteralOption :=
  ⟨jobSpec, "queue", "    public string $queue = '"⟩

def connectionLiteral : LiteralOption :=
  ⟨seederSpec, "connection", "    protected string $connection = '"⟩

def literalOptions : List LiteralOption :=
  [queueLiteral, connectionLiteral]

/-- What stands in a class from behind the opening quote of the literal of an option. -/
def LiteralOption.literal? (written : LiteralOption) (content : String) : Option (List Char) :=
  belowOpening? written.opening.toList (content.toList.splitOn '\n')

/-- Whether the literal of an option denotes a text, and its statement ends right behind it. -/
def LiteralOption.Denotes (written : LiteralOption) (content value : String) : Prop :=
  ∃ literal behind, written.literal? content = some literal ∧
    readLiteral literal = some (value.toList, ';' :: behind)

variable {written : LiteralOption} {request : Request} {artifact : Artifact} {value : String}

/-- The literal that a template writes denotes the value of its variable exactly if that stands for
itself. -/
theorem denotes_iff_of_draft {draft : Draft} {values : List String} (front back : List Piece)
    (row : String) (plain : Plain draft.context values [])
    (found : draft.context.get? written.option = some (.text value))
    (filled : written.opening.toList ≠ []) (whole : '\n' ∉ written.opening.toList)
    (scanned : scanPieces [written.opening.toList] values [] (.opening [written.opening.toList])
      (front ++ [.rows [row]]) = some (.opening [written.opening.toList]))
    (template_eq : draft.template = (front ++ [.rows [row]]) ++
      .text written.opening :: .value written.option :: .text "';\n" :: back)
    (made : draft.artifact = .ok artifact) :
    written.Denotes artifact.content value ↔ StandsForItself value.toList := by
  obtain ⟨rendered, -⟩ := Draft.artifact_eq_ok_iff.1 made
  rw [template_eq] at rendered
  obtain ⟨below, literal_eq⟩ := exists_belowOpening plain filled whole found scanned rendered
  have line_eq : written.literal? artifact.content =
      some (value.toList ++ '\'' :: ';' :: '\n' :: below) := literal_eq
  rw [← exists_readLiteral_append_iff, LiteralOption.Denotes, line_eq]
  constructor
  · intro denotes
    obtain ⟨_, behind, same, read⟩ := denotes
    cases same
    exact ⟨behind, read⟩
  · intro reads
    obtain ⟨behind, read⟩ := reads
    exact ⟨_, behind, rfl, read⟩

/-! ## The two options -/

theorem denotes_iff_of_job (named : ∀ character ∈ request.name.toList, isBlank character = false)
    (unswitched : "queue" ∉ Keyed.keys request.switches)
    (given : request.params.get? "queue" = some (.text value))
    (made : (jobDraft request).artifact = .ok artifact) :
    queueLiteral.Denotes artifact.content value ↔ StandsForItself value.toList := by
  have name : (jobDraft request).context.get? "name" = some (.text request.name) :=
    get?_contextWith_name (by simp [Keyed.keys])
  have short : (jobDraft request).context.get? "short_name" = some _ :=
    get?_contextWith_of_mem (by simp [Keyed.keys]) (List.mem_singleton_self _)
  have found : (jobDraft request).context.get? "queue" = some (.text value) :=
    (get?_contextWith_param (by simp [Keyed.keys]) (by decide) unswitched).trans given
  have plain : Plain (jobDraft request).context ["name", "short_name"] [] := by
    refine ⟨?_, List.forall_mem_nil _⟩
    simp only [List.forall_mem_cons]
    exact ⟨exists_whole name (whole_name named), exists_whole short (whole_stripSuffix named _),
      List.forall_mem_nil _⟩
  exact denotes_iff_of_draft (job.take 15) (job.drop 19) "\x7b" plain found (by decide) (by decide)
    (by decide +kernel) rfl made

theorem denotes_iff_of_seeder
    (named : ∀ character ∈ request.name.toList, isBlank character = false)
    (unswitched : "connection" ∉ Keyed.keys request.switches)
    (given : request.params.get? "connection" = some (.text value))
    (made : (seederDraft request).artifact = .ok artifact) :
    connectionLiteral.Denotes artifact.content value ↔ StandsForItself value.toList := by
  have name : (seederDraft request).context.get? "name" = some (.text request.name) :=
    get?_contextWith_name (by simp [Keyed.keys])
  have found : (seederDraft request).context.get? "connection" = some (.text value) :=
    (get?_contextWith_param (by simp [Keyed.keys]) (by decide) unswitched).trans given
  have plain : Plain (seederDraft request).context ["name"] [] := by
    refine ⟨?_, List.forall_mem_nil _⟩
    simp only [List.forall_mem_cons]
    exact ⟨exists_whole name (whole_name named), List.forall_mem_nil _⟩
  exact denotes_iff_of_draft (seeder.take 8) (seeder.drop 12) "\x7b" plain found (by decide)
    (by decide) (by decide +kernel) rfl made

/-! ## What is given -/

variable {root : Path} {invocation : Invocation} {workspace next : Workspace}

theorem get?_params_of_given {settings : Settings} {spec : Spec} {option : String} (known : spec ∈ catalogue)
    (listed : option ∈ Keyed.keys spec.options)
    (given : invocation.options.get? option = some (.text value)) :
    (requestOf spec invocation settings).params.get? option = some (.text value) := by
  obtain ⟨⟨option, builtIn⟩, member, rfl⟩ := List.mem_map.1 listed
  rw [get?_params_of_mem_options known invocation settings member, Settings.optionValue, given,
    Option.getD_some]

/-- A provider of one file makes it, or its path goes up. -/
theorem provide_of_one {provide : Provider} {draft : Draft}
    (drafted : Drafts provide request [draft]) :
    (∃ artifact, provide request = .ok [artifact] ∧ draft.artifact = .ok artifact) ∨
      draft.GoesUp ∧ provide request = .error (.misshapen draft.problems) := by
  have provide_eq : provide request = (do return [← draft.artifact]) := by
    rw [drafted.provide_eq, List.mapM_cons, List.mapM_nil]
    rfl
  rw [provide_eq]
  rcases draft.artifact_cases (drafted.bound draft (List.mem_singleton_self _))
    (drafted.below draft (List.mem_singleton_self _)) with ⟨content, made, -⟩ | ⟨failed, up⟩
  · rw [made]
    exact .inl ⟨_, rfl, rfl⟩
  · rw [failed]
    exact .inr ⟨up, rfl⟩

theorem exists_denotes_iff (settings : Settings) (among : written ∈ literalOptions)
    (given : invocation.options.get? written.option = some (.text value)) :
    (∃ artifact, written.spec.provide (requestOf written.spec invocation settings) =
        .ok [artifact] ∧
      (written.Denotes artifact.content value ↔ StandsForItself value.toList)) ∨
    ∃ draft : Draft, draft.GoesUp ∧
      written.spec.provide (requestOf written.spec invocation settings) =
        .error (.misshapen draft.problems) := by
  simp only [literalOptions, List.mem_cons, List.not_mem_nil, or_false] at among
  rcases among with rfl | rfl
  · have known : jobSpec ∈ catalogue := by simp [catalogue]
    rcases provide_of_one (drafts_job (supplies_requestOf known invocation settings)) with
      ⟨artifact, provided, made⟩ | rejected
    · refine .inl ⟨artifact, provided, denotes_iff_of_job
        (isJoined_requestOf known invocation settings).named (fun switched => ?_)
        (get?_params_of_given known (by decide) given) made⟩
      exact absurd (mem_switches_of_requestOf switched) (by decide)
    · exact .inr ⟨_, rejected⟩
  · have known : seederSpec ∈ catalogue := by simp [catalogue]
    rcases provide_of_one (drafts_seeder (supplies_requestOf known invocation settings)) with
      ⟨artifact, provided, made⟩ | rejected
    · refine .inl ⟨artifact, provided, denotes_iff_of_seeder
        (isJoined_requestOf known invocation settings).named (fun switched => ?_)
        (get?_params_of_given known (by decide) given) made⟩
      exact absurd (mem_switches_of_requestOf switched) (by decide)
    · exact .inr ⟨_, rejected⟩

/-- What is given for a queue or a connection is what the literal in the class denotes exactly if it
stands for itself between quotes. -/
theorem given_is_denoted_iff_standsForItself (among : written ∈ literalOptions)
    (prepared : exec (prepare root written.spec invocation) workspace = (.ok request, next))
    (given : invocation.options.get? written.option = some (.text value)) :
    (∃ artifact, written.spec.provide request = .ok [artifact] ∧
      (written.Denotes artifact.content value ↔ StandsForItself value.toList)) ∨
    ∃ draft : Draft, draft.GoesUp ∧
      written.spec.provide request = .error (.misshapen draft.problems) := by
  obtain ⟨settings, rfl⟩ := exists_requestOf prepared
  exact exists_denotes_iff settings among given

/-- An invocation for a job with a queue. -/
def sendTo (queue : String) : Invocation :=
  ⟨["send"], [("queue", .text queue)]⟩

theorem not_rejected_of_isOk {provide : Provider} (made : (provide request).isOk = true)
    (draft : Draft) : provide request ≠ .error (.misshapen draft.problems) := by
  intro rejected
  rw [rejected] at made
  cases made

/-- The queue of emails is denoted by its literal. -/
theorem given_is_denoted_iff_standsForItself_emails :
    queueLiteral ∈ literalOptions ∧ ∃ request,
      exec (prepare ⟨.relative, []⟩ jobSpec (sendTo "emails")) (bareKeeping .empty) =
        (.ok request, bareKeeping .empty) ∧
      (sendTo "emails").options.get? "queue" = some (.text "emails") ∧
      ∃ artifact, jobSpec.provide request = .ok [artifact] ∧
        queueLiteral.Denotes artifact.content "emails" := by
  have among : queueLiteral ∈ literalOptions := List.mem_cons_self
  have prepared : exec (prepare ⟨.relative, []⟩ jobSpec (sendTo "emails")) (bareKeeping .empty) =
      (.ok (requestOf jobSpec (sendTo "emails") .empty), bareKeeping .empty) := rfl
  have given : (sendTo "emails").options.get? "queue" = some (.text "emails") := rfl
  have made : (jobSpec.provide (requestOf jobSpec (sendTo "emails") .empty)).isOk = true := by
    decide +kernel
  refine ⟨among, _, prepared, given, ?_⟩
  rcases given_is_denoted_iff_standsForItself among prepared given with
    ⟨artifact, provided, denotes_iff⟩ | ⟨draft, -, rejected⟩
  · exact ⟨artifact, provided, denotes_iff.2 (by decide)⟩
  · exact absurd rejected (not_rejected_of_isOk made draft)

/-- A quote in what is given ends the literal too early. -/
theorem not_denoted_of_quote :
    ¬∀ written ∈ literalOptions, ∀ root invocation workspace request next value,
      exec (prepare root written.spec invocation) workspace = (.ok request, next) →
      invocation.options.get? written.option = some (.text value) →
      ∀ artifacts, written.spec.provide request = .ok artifacts →
        ∀ artifact ∈ artifacts, written.Denotes artifact.content value := by
  intro everywhere
  have among : queueLiteral ∈ literalOptions := List.mem_cons_self
  have prepared : exec (prepare ⟨.relative, []⟩ jobSpec (sendTo "a'b")) (bareKeeping .empty) =
      (.ok (requestOf jobSpec (sendTo "a'b") .empty), bareKeeping .empty) := rfl
  have given : (sendTo "a'b").options.get? "queue" = some (.text "a'b") := rfl
  have made : (jobSpec.provide (requestOf jobSpec (sendTo "a'b") .empty)).isOk = true := by
    decide +kernel
  rcases exists_denotes_iff Settings.empty among given with
    ⟨artifact, provided, denotes_iff⟩ | ⟨draft, -, rejected⟩
  · have denotes := everywhere queueLiteral among _ _ _ _ _ _ prepared given _ provided artifact
      (List.mem_singleton_self _)
    exact absurd (denotes_iff.1 denotes) (by decide)
  · exact absurd rejected (not_rejected_of_isOk made draft)

end Scaffold.Generator
