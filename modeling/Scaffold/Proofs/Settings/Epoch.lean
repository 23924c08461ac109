import Scaffold.Proofs.Settings.Content

/-!
# One snapshot for each epoch

Between two resets the settings are read from their file once, by the first query that needs them
and succeeds. All queries of the epoch are answered from what was read then, like those of a new store
that is asked at that moment, whatever happens to the file in between.
-/

set_option autoImplicit false

namespace Scaffold.Settings

/-- What a store of settings is asked for. -/
inductive Query where
  | document
  | values (command : String)
  | project
  | switches (command : String) (given : Fields) (names : List String)
  | option (command : String) (given : Fields) (name : String) (builtIn : Value)

inductive Answer where
  | document (settings : Settings)
  | values (values : Fields)
  | switches (values : Keyed String Bool)
  | option (value : Value)

namespace Query

/-- The answer to a query from settings. -/
def answer (settings : Settings) : Query → Answer
  | .document => .document settings
  | .values command => .values (settings.valuesFor command)
  | .project => .values settings.project.toFields
  | .switches command given names =>
    .switches (switchValues (settings.valuesFor command) given names)
  | .option command given name builtIn =>
    .option (optionValue (settings.valuesFor command) given name builtIn)

/-- Asks a store for the answer. -/
def ask (root : Path) : Query → WorkspaceAction StoreFault Answer
  | .document => return .document (← load root)
  | .values command => return .values ((← load root).valuesFor command)
  | .project => return .values (← load root).project.toFields
  | .switches command given names => return .switches (← resolveSwitches root command given names)
  | .option command given name builtIn =>
    return .option (← resolveOption root command given name builtIn)

/-- Whether a query needs the settings. An option that is given is answered without them. -/
def Consults : Query → Prop
  | .option _ given name _ => given.get? name = none
  | _ => True

variable {root : Path} {query : Query}

theorem exec_ask_of_consults (consults : query.Consults) (workspace : Workspace) :
    exec (query.ask root) workspace =
      match exec (load root) workspace with
      | (.ok settings, next) => (.ok (query.answer settings), next)
      | (.error fault, next) => (.error fault, next) := by
  cases query with
  | option command given name builtIn =>
    have absent : given.get? name = none := consults
    simp only [ask, resolveOption, absent, exec_bind]
    cases exec (load root) workspace with
    | mk result next =>
      cases result with
      | ok settings => simp [answer, optionValue, absent]
      | error fault => rfl
  | _ =>
    simp only [ask, resolveSwitches, exec_bind]
    cases exec (load root) workspace with
    | mk result next => cases result <;> rfl

/-- A query that does not need the settings is answered the same from all of them. -/
theorem exec_ask_of_not_consults (consultsNot : ¬query.Consults) (workspace : Workspace)
    (settings : Settings) :
    exec (query.ask root) workspace = (.ok (query.answer settings), workspace) := by
  cases query with
  | option command given name builtIn =>
    have present : given.get? name ≠ none := consultsNot
    obtain ⟨value, found⟩ := Option.ne_none_iff_exists'.1 present
    simp [ask, resolveOption, answer, optionValue, found]
  | _ => exact absurd trivial consultsNot

theorem exec_ask_of_kept {workspace : Workspace} {settings : Settings}
    (kept : workspace.settings = some settings) :
    exec (query.ask root) workspace = (.ok (query.answer settings), workspace) := by
  by_cases consults : query.Consults
  · rw [exec_ask_of_consults consults, exec_load_of_kept kept]
  · exact exec_ask_of_not_consults consults workspace settings

end Query

/-! ## Steps -/

/-- A step on a store and its disk: the disk is changed, the store is asked, or it forgets. -/
inductive Step where
  | edit (change : Disk → Disk)
  | ask (query : Query)
  | reset

def Step.apply (root : Path) (workspace : Workspace) : Step → Workspace
  | .edit change => { workspace with disk := change workspace.disk }
  | .ask query => (exec (query.ask root) workspace).2
  | .reset => (exec forget workspace).2

/-- The workspace after steps in turn. -/
def after (root : Path) (steps : List Step) (workspace : Workspace) : Workspace :=
  steps.foldl (Step.apply root) workspace

/-- Whether an epoch starts in a workspace: it is that of a new store, or of one after a reset. -/
inductive StartsEpoch (root : Path) : Workspace → Prop where
  | first (disk : Disk) : StartsEpoch root (.start disk)
  | reset (disk : Disk) (earlier : List Step) :
      StartsEpoch root (after root (earlier ++ [.reset]) (.start disk))

/-- Whether among steps no query that needs the settings is answered. -/
def LearnsNothing (root : Path) (workspace : Workspace) (steps : List Step) : Prop :=
  ∀ before query later, steps = before ++ .ask query :: later → query.Consults →
    ∃ fault, (exec (query.ask root) (after root before workspace)).1 = .error fault

variable {root : Path} {workspace next : Workspace} {settings : Settings} {steps : List Step}

theorem after_concat (steps : List Step) (step : Step) (workspace : Workspace) :
    after root (steps ++ [step]) workspace = step.apply root (after root steps workspace) :=
  List.foldl_concat ..

theorem LearnsNothing.of_concat {step : Step}
    (learns : LearnsNothing root workspace (steps ++ [step])) :
    LearnsNothing root workspace steps := by
  intro before query later split consults
  exact learns before query (later ++ [step]) (by simp [split]) consults

theorem LearnsNothing.concat {step : Step} (learns : LearnsNothing root workspace steps)
    (last : ∀ query, step = .ask query → query.Consults →
      ∃ fault, (exec (query.ask root) (after root steps workspace)).1 = .error fault) :
    LearnsNothing root workspace (steps ++ [step]) := by
  intro before query later split consults
  cases later using List.reverseRecOn with
  | nil =>
    obtain ⟨rfl, same⟩ := List.append_inj' split rfl
    exact last query (List.singleton_inj.1 same) consults
  | append_singleton later other =>
    rw [← List.cons_append, ← List.append_assoc] at split
    obtain ⟨rfl, -⟩ := List.append_inj' split rfl
    exact learns before query later rfl consults

/-- Steps learn nothing, or there is a first query among them that needs the settings and is
answered. -/
theorem learnsNothing_or_exists_first (root : Path) (workspace : Workspace) (steps : List Step) :
    LearnsNothing root workspace steps ∨
      ∃ quiet query later answer next, steps = quiet ++ .ask query :: later ∧
        LearnsNothing root workspace quiet ∧ query.Consults ∧
        exec (query.ask root) (after root quiet workspace) = (.ok answer, next) := by
  induction steps using List.reverseRecOn with
  | nil => exact .inl fun before query later split => by simp at split
  | append_singleton steps step ih =>
    rcases ih with learns | ⟨quiet, query, later, answer, next, rfl, learns, consults, answered⟩
    · cases step with
      | edit change => exact .inl (learns.concat nofun)
      | reset => exact .inl (learns.concat nofun)
      | ask query =>
        by_cases consults : query.Consults
        · cases asked : exec (query.ask root) (after root steps workspace) with
          | mk result next =>
            cases result with
            | ok answer =>
              exact .inr ⟨steps, query, [], answer, next, rfl, learns, consults, asked⟩
            | error fault =>
              refine .inl (learns.concat ?_)
              intro other same _
              cases same
              exact ⟨fault, by rw [asked]⟩
        · refine .inl (learns.concat ?_)
          intro other same consultsOther
          cases same
          exact absurd consultsOther consults
    · exact .inr ⟨quiet, query, later ++ [step], answer, next, by simp, learns, consults, answered⟩

/-! ## While nothing is kept -/

/-- Asking for the settings in vain keeps none and prints nothing. -/
theorem unread_of_exec_load_error {fault : StoreFault}
    (failed : exec (load root) workspace = (.error fault, next)) :
    next.settings = none ∧ next.transcript = workspace.transcript := by
  have loads := loads_load root workspace
  rw [failed] at loads
  cases loads with
  | unseen unread => exact ⟨unread, rfl⟩
  | scalar unread => exact ⟨unread, rfl⟩

theorem unread_of_exec_ask_error {query : Query} {fault : StoreFault}
    (failed : exec (query.ask root) workspace = (.error fault, next)) :
    next.settings = none ∧ next.transcript = workspace.transcript := by
  by_cases consults : query.Consults
  · rw [Query.exec_ask_of_consults consults] at failed
    cases loaded : exec (load root) workspace with
    | mk result middle =>
      rw [loaded] at failed
      cases result with
      | ok settings => cases failed
      | error other =>
        cases failed
        exact unread_of_exec_load_error loaded
  · rw [Query.exec_ask_of_not_consults consults workspace .empty] at failed
    cases failed

theorem settings_apply_reset (root : Path) (workspace : Workspace) :
    (Step.apply root workspace .reset).settings = none := rfl

theorem StartsEpoch.unread (starts : StartsEpoch root workspace) : workspace.settings = none := by
  cases starts with
  | first disk => rfl
  | reset disk earlier => rw [after_concat, settings_apply_reset]

/-- Steps that learn nothing keep nothing and print nothing. -/
theorem LearnsNothing.unread (unread : workspace.settings = none)
    (learns : LearnsNothing root workspace steps) :
    (after root steps workspace).settings = none ∧
      (after root steps workspace).transcript = workspace.transcript := by
  induction steps using List.reverseRecOn with
  | nil => exact ⟨unread, rfl⟩
  | append_singleton steps step ih =>
    obtain ⟨unreadBefore, printedBefore⟩ := ih learns.of_concat
    rw [after_concat]
    cases step with
    | edit change => exact ⟨unreadBefore, printedBefore⟩
    | reset => exact ⟨rfl, printedBefore⟩
    | ask query =>
      by_cases consults : query.Consults
      · obtain ⟨fault, failed⟩ := learns steps query [] rfl consults
        obtain ⟨unreadAfter, printedAfter⟩ := unread_of_exec_ask_error (Prod.ext failed rfl)
        exact ⟨unreadAfter, printedAfter.trans printedBefore⟩
      · rw [Step.apply, Query.exec_ask_of_not_consults consults _ .empty]
        exact ⟨unreadBefore, printedBefore⟩

/-! ## While settings are kept -/

/-- Steps without a reset keep the settings that are kept, and print nothing. -/
theorem after_of_kept (kept : workspace.settings = some settings) (noReset : .reset ∉ steps) :
    (after root steps workspace).settings = some settings ∧
      (after root steps workspace).transcript = workspace.transcript := by
  induction steps using List.reverseRecOn with
  | nil => exact ⟨kept, rfl⟩
  | append_singleton steps step ih =>
    obtain ⟨keptBefore, printedBefore⟩ := ih fun member => noReset (List.mem_append_left _ member)
    rw [after_concat]
    cases step with
    | edit change => exact ⟨keptBefore, printedBefore⟩
    | reset => exact absurd (List.mem_append_right _ List.mem_cons_self) noReset
    | ask query =>
      rw [Step.apply, Query.exec_ask_of_kept keptBefore]
      exact ⟨keptBefore, printedBefore⟩

/-! ## The query that reads -/

/-- What a store that keeps nothing reads is what a new store reads, and it prints the same after
what was printed before. -/
theorem exec_load_eq_start (unread : workspace.settings = none) :
    exec (load root) workspace =
      ((exec (load root) (.start workspace.disk)).1,
        { (exec (load root) (.start workspace.disk)).2 with
          transcript := workspace.transcript ++
            (exec (load root) (.start workspace.disk)).2.transcript }) := by
  have fresh : (Workspace.start workspace.disk).settings = none := rfl
  rw [exec_load_of_unread unread, exec_load_of_unread fresh]
  have disk_eq : (Workspace.start workspace.disk).disk = workspace.disk := rfl
  rw [disk_eq]
  cases workspace.disk.look (file root) with
  | error fault => simp [Workspace.start, ← unread]
  | ok seen =>
    dsimp only
    split
    · cases readingOf workspace.disk root with
      | ok settings => simp [keeping, afterReading, Workspace.start]
      | error fault => cases fault <;> simp [keeping, afterReading, Workspace.start, unread]
    · simp [keeping, Workspace.start]

/-- Whether an epoch in which settings are read in one workspace goes on from another with them.
They are what a new store reads at that moment, which prints as much. A warning is printed only for
a file that holds none, and then there are none. Until a reset each query is answered from them, as a
new store would answer it at that moment, and prints nothing. -/
structure Snapshot (root : Path) (moment next : Workspace) (settings : Settings) : Prop where
  read : ∃ fresh, exec (load root) (.start moment.disk) = (.ok settings, fresh) ∧
    Answers root (.start moment.disk) settings fresh ∧
    next.transcript = moment.transcript ++ fresh.transcript
  warned : next.transcript = moment.transcript ∨
    ∃ fault octets mode,
      next.transcript = moment.transcript ++ [⟨.warning, readWarning fault⟩] ∧
      moment.disk.look (file root) = .ok (some (.file octets mode)) ∧
      (∀ held, ¬Holds moment.disk root held) ∧ settings = .empty
  fresh : ∀ query : Query,
    (exec (query.ask root) (.start moment.disk)).1 = .ok (query.answer settings)
  later : ∀ steps, .reset ∉ steps →
    (after root steps next).transcript = next.transcript ∧
      ∀ query : Query, exec (query.ask root) (after root steps next) =
        (.ok (query.answer settings), after root steps next)

theorem snapshot_of_exec_load (unread : workspace.settings = none)
    (loaded : exec (load root) workspace = (.ok settings, next)) :
    Snapshot root workspace next settings := by
  cases begun : exec (load root) (.start workspace.disk) with
  | mk result fresh =>
    have same : exec (load root) workspace = _ := exec_load_eq_start unread
    rw [loaded, begun] at same
    cases same
    have answers : Answers root (.start workspace.disk) settings fresh :=
      answers_of_exec_load rfl begun
    refine ⟨⟨fresh, begun, answers, rfl⟩, ?_, fun query => ?_, fun steps noReset => ?_⟩
    · cases answers with
      | absent => exact .inl (List.append_nil _)
      | valid => exact .inl (List.append_nil _)
      | invalid found none => exact .inr ⟨_, _, _, rfl, found, none, rfl⟩
    · by_cases consults : query.Consults
      · rw [Query.exec_ask_of_consults consults, begun]
      · rw [Query.exec_ask_of_not_consults consults]
    · obtain ⟨keptLater, printedLater⟩ := after_of_kept (keeps_of_exec_load loaded) noReset
      exact ⟨printedLater, fun query => Query.exec_ask_of_kept keptLater⟩

/-- In an epoch the settings are read once, by the first query that needs them and is answered.
Until then nothing is kept and nothing printed; from then on all answers come from what was read. A
query that fails leaves nothing kept, and one that does not need the settings is answered in each
workspace as from all settings. -/
theorem epoch_has_one_snapshot (starts : StartsEpoch root workspace) (steps : List Step) :
    ((LearnsNothing root workspace steps ∧ (after root steps workspace).settings = none ∧
          (after root steps workspace).transcript = workspace.transcript) ∨
        ∃ quiet query later settings next, steps = quiet ++ .ask query :: later ∧
          LearnsNothing root workspace quiet ∧ query.Consults ∧
          exec (query.ask root) (after root quiet workspace) =
            (.ok (query.answer settings), next) ∧
          (after root quiet workspace).transcript = workspace.transcript ∧
          Snapshot root (after root quiet workspace) next settings) ∧
      (∀ (query : Query) other fault next,
        exec (query.ask root) other = (.error fault, next) →
          next.settings = none ∧ next.transcript = other.transcript) ∧
      ∀ query : Query, ¬query.Consults → ∀ other settings,
        exec (query.ask root) other = (.ok (query.answer settings), other) := by
  refine ⟨?_, fun query other fault next => unread_of_exec_ask_error,
    fun query consultsNot => Query.exec_ask_of_not_consults consultsNot⟩
  rcases learnsNothing_or_exists_first root workspace steps with
    learns | ⟨quiet, query, later, answer, next, split, learns, consults, answered⟩
  · exact .inl ⟨learns, learns.unread starts.unread⟩
  · obtain ⟨unread, printed⟩ := learns.unread starts.unread
    rw [Query.exec_ask_of_consults consults] at answered
    cases loaded : exec (load root) (after root quiet workspace) with
    | mk result middle =>
      rw [loaded] at answered
      cases result with
      | error fault => cases answered
      | ok settings =>
        cases answered
        refine .inr ⟨quiet, query, later, settings, next, split, learns, consults, ?_, printed,
          snapshot_of_exec_load unread loaded⟩
        rw [Query.exec_ask_of_consults consults, loaded]

/-- A queue that is given is asked for, and then the settings are rewritten. -/
def givenThenRewritten (text : String) : List Step :=
  [.ask (.option "make:job" [("queue", .text "emails")] "queue" .null),
    .edit fun _ => diskWith text]

theorem learnsNothing_givenThenRewritten (text : String) (workspace : Workspace) :
    LearnsNothing root workspace (givenThenRewritten text) := by
  intro before query later split consults
  have member : Step.ask query ∈ givenThenRewritten text := by simp [split]
  obtain rfl : query = .option "make:job" [("queue", .text "emails")] "queue" .null := by
    simpa [givenThenRewritten] using member
  cases consults

/-- A store after a reset. -/
def resetStore : Workspace :=
  after ⟨.relative, []⟩ ([.ask .document] ++ [.reset]) (.start (diskWith ""))

theorem epoch_has_one_snapshot_misshapen :
    StartsEpoch ⟨.relative, []⟩ resetStore ∧
      ∃ quiet query later settings next,
        givenThenRewritten misshapen ++ [.ask .project, .ask .document] =
          quiet ++ .ask query :: later ∧
        exec (query.ask ⟨.relative, []⟩) (after ⟨.relative, []⟩ quiet resetStore) =
          (.ok (query.answer settings), next) ∧
        Snapshot ⟨.relative, []⟩ (after ⟨.relative, []⟩ quiet resetStore) next settings := by
  have starts : StartsEpoch ⟨.relative, []⟩ resetStore := .reset _ [.ask .document]
  refine ⟨starts, ?_⟩
  rcases (epoch_has_one_snapshot starts
      (givenThenRewritten misshapen ++ [.ask .project, .ask .document])).1 with
    ⟨learns, -⟩ | ⟨quiet, query, later, settings, next, split, -, -, answered, -, snapshot⟩
  · -- The file that is there when the project is asked for is answered from.
    have found : (after ⟨.relative, []⟩ (givenThenRewritten misshapen) resetStore).disk.look
        (file ⟨.relative, []⟩) = .ok (some (.file (Text.encode misshapen) 0o644)) :=
      look_diskWith misshapen
    have unread : (after ⟨.relative, []⟩ (givenThenRewritten misshapen) resetStore).settings =
        none :=
      ((learnsNothing_givenThenRewritten misshapen resetStore).unread starts.unread).1
    obtain ⟨held, next, loaded⟩ := exists_exec_load unread found not_spoiltBy_misshapen
    have consults : Query.project.Consults := trivial
    obtain ⟨fault, failed⟩ := learns _ .project [.ask .document] rfl consults
    rw [Query.exec_ask_of_consults consults, loaded] at failed
    cases failed
  · exact ⟨quiet, query, later, settings, next, split, answered, snapshot⟩

/-! ## Queries that do not read -/

theorem fst_exec_ask_switches (root : Path) (command : String) (given : Fields)
    (names : List String) (workspace : Workspace) :
    (exec ((Query.switches command given names).ask root) workspace).1 =
      (exec (resolveSwitches root command given names) workspace).1.map .switches := by
  simp only [Query.ask, exec_bind]
  cases exec (resolveSwitches root command given names) workspace with
  | mk result next => cases result <;> rfl

def loggingSettings (isOn : String) : String :=
  "generators: \x7bdefaults: \x7blogging: " ++ isOn ++ "\x7d\x7d\n"

/-- An option that is given is answered without the file, so what is asked for next is answered from
a file that was written in between. -/
theorem not_read_by_given_option :
    (exec ((Query.option "make:job" [("queue", .text "emails")] "queue" .null).ask ⟨.relative, []⟩)
        (.start (diskWith (loggingSettings "true")))).1 = .ok (.option (.text "emails")) ∧
      (exec ((Query.switches "make:job" [] ["logging"]).ask ⟨.relative, []⟩)
        (.start (diskWith (loggingSettings "true")))).1 = .ok (.switches [("logging", true)]) ∧
      (exec ((Query.switches "make:job" [] ["logging"]).ask ⟨.relative, []⟩)
        (after ⟨.relative, []⟩ (givenThenRewritten (loggingSettings "false"))
          (.start (diskWith (loggingSettings "true"))))).1 =
        .ok (.switches [("logging", false)]) := by
  have before : (exec (resolveSwitches ⟨.relative, []⟩ "make:job" [] ["logging"])
      (.start (diskWith (loggingSettings "true")))).1 = .ok [("logging", true)] := by
    decide +kernel
  have afterwards : (exec (resolveSwitches ⟨.relative, []⟩ "make:job" [] ["logging"])
      (after ⟨.relative, []⟩ (givenThenRewritten (loggingSettings "false"))
        (.start (diskWith (loggingSettings "true"))))).1 = .ok [("logging", false)] := by
    decide +kernel
  refine ⟨rfl, ?_, ?_⟩
  · rw [fst_exec_ask_switches, before]
    rfl
  · rw [fst_exec_ask_switches, afterwards]
    rfl

end Scaffold.Settings
