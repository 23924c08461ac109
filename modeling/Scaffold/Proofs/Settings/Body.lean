import Scaffold.Proofs.Settings.Shape

/-!
# Sections without a body

A section that is null reads like one that is an empty mapping, for the generators and for the project
as a whole. The paths of the project are the exception: they need a body, so a null is refused there.
-/

set_option autoImplicit false

namespace Scaffold.Settings

/-- Whether two values are the same up to one place, where the one holds `part` and the other
`other`. The place is given by the keys that lead to it. -/
inductive DiffersAt (part other : Value) : List Value → Value → Value → Prop where
  | here : DiffersAt part other [] part other
  | under {key held changed : Value} {place : List Value} {before after : Entries} :
      DiffersAt part other place held changed →
      DiffersAt part other (key :: place) (.mapping (before ++ (key, held) :: after))
        (.mapping (before ++ (key, changed) :: after))

def pathsPlace : List Value :=
  [.text "project", .text "paths"]

/-- The places where settings have sections and bodies. -/
inductive IsSectionPlace : List Value → Prop where
  | generators : IsSectionPlace [.text "generators"]
  | defaults : IsSectionPlace [.text "generators", .text "defaults"]
  | overrides : IsSectionPlace [.text "generators", .text "overrides"]
  | override (command : Value) :
      IsSectionPlace [.text "generators", .text "overrides", command]
  | project : IsSectionPlace [.text "project"]
  | paths : IsSectionPlace pathsPlace

/-- Whether two texts give the same settings, or both are refused. -/
inductive ReadAlike : Except ReadingFault Settings → Except ReadingFault Settings → Prop where
  | held (settings : Settings) : ReadAlike (.ok settings) (.ok settings)
  | refused (fault other : SettingsFault) :
      ReadAlike (.error (.settings fault)) (.error (.settings other))

/-! ## Values with and without a body -/

section Overlooks

variable {α : Type} {check : Value → α} {key : Value} {place : List Value} {name : String}

/-- Whether an outcome is the same with null at a place as with an empty mapping. -/
def Overlooks (check : Value → α) (place : List Value) : Prop :=
  ∀ bare filled, DiffersAt .null (.mapping []) place bare filled → check bare = check filled

theorem overlooks_here (same : check .null = check (.mapping [])) : Overlooks check [] := by
  intro bare filled differs
  cases differs
  exact same

theorem under?_append_cons {before after : Entries} {held : Value} :
    under? name (before ++ (key, held) :: after) =
      (under? name before).or (if key.isText name then some held else under? name after) := by
  unfold under?
  rw [List.find?_append, List.find?_cons]
  cases before.find? (·.1.isText name) <;> cases key.isText name <;> rfl

/-- What is checked of the part under a name overlooks what the check of that part does, and all that
is under other keys. -/
theorem overlooks_underOr (check : Value → α) {default : Value}
    (below : key = .text name → Overlooks check place) :
    Overlooks (fun value => check (underOr default value name)) (key :: place) := by
  intro bare filled differs
  cases differs with
  | @under _ held changed _ before after differs =>
    simp only [underOr, Value.entries, under?_append_cons]
    cases under? name before with
    | some found => rfl
    | none =>
      cases named : key.isText name with
      | false => rfl
      | true => exact below (isText_iff.1 named) held changed differs

theorem overlooks_emptyIfNull (check : Value → α) (below : place ≠ [] → Overlooks check place) :
    Overlooks (fun value => check (emptyIfNull value)) place := by
  intro bare filled differs
  cases differs with
  | here => rfl
  | under differs => exact below (List.cons_ne_nil _ _) _ _ (.under differs)

theorem overlooks_emptyBodies : Overlooks emptyBodies [key] := by
  intro bare filled differs
  cases differs with
  | under differs =>
    cases differs
    simp only [emptyBodies, List.map_append, List.map_cons, emptyIfNull]

end Overlooks

/-! ## The sections -/

section Sections

variable {place : List Value} {value bare filled : Value} {text : String}

theorem overlooks_checkGenerators {key : Value}
    (defaults : key = .text "defaults" → place = [])
    (overrides : key = .text "overrides" → place = [] ∨ ∃ command, place = [command]) :
    Overlooks checkGenerators (key :: place) := by
  have defaultsOverlooked : Overlooks (fun value => emptyIfNull (underOr .null value "defaults"))
      (key :: place) := by
    refine overlooks_underOr emptyIfNull fun named => ?_
    rw [defaults named]
    exact overlooks_here rfl
  have overridesOverlooked : Overlooks (fun value => emptyBodies (underOr .null value "overrides"))
      (key :: place) := by
    refine overlooks_underOr emptyBodies fun named => ?_
    rcases overrides named with rfl | ⟨command, rfl⟩
    · exact overlooks_here rfl
    · exact overlooks_emptyBodies
  intro bare filled differs
  have sameDefaults := defaultsOverlooked bare filled differs
  have sameOverrides := overridesOverlooked bare filled differs
  cases differs with
  | under differs =>
    simp only [underOr, Value.entries] at sameDefaults sameOverrides
    simp only [checkGenerators, sameDefaults, sameOverrides]

theorem ofValue_mapping {entries : Entries} :
    ofValue (.mapping entries) =
      ((((checkGenerators
            (emptyIfNull (underOr .null (.mapping entries) "generators"))).within "generators").and
          ((checkProject
            (emptyIfNull (underOr .null (.mapping entries) "project"))).within "project")).map
        fun ((defaults, overrides), project) => (⟨defaults, overrides, project⟩ : Settings)).mapError
          .misshapen :=
  rfl

theorem overlooks_ofValue (isPlace : IsSectionPlace place) (elsewhere : place ≠ pathsPlace) :
    Overlooks ofValue place := by
  have generators : Overlooks
      (fun value => checkGenerators (emptyIfNull (underOr .null value "generators"))) place := by
    cases isPlace with
    | paths => exact absurd rfl elsewhere
    | project => exact overlooks_underOr (fun part => checkGenerators (emptyIfNull part)) (by simp)
    | generators =>
      exact overlooks_underOr (fun part => checkGenerators (emptyIfNull part)) fun _ =>
        overlooks_emptyIfNull checkGenerators (absurd rfl)
    | defaults | overrides | override command =>
      exact overlooks_underOr (fun part => checkGenerators (emptyIfNull part)) fun _ =>
        overlooks_emptyIfNull checkGenerators fun _ => overlooks_checkGenerators (by simp) (by simp)
  have project : Overlooks
      (fun value => checkProject (emptyIfNull (underOr .null value "project"))) place := by
    cases isPlace with
    | paths => exact absurd rfl elsewhere
    | project =>
      exact overlooks_underOr (fun part => checkProject (emptyIfNull part)) fun _ =>
        overlooks_emptyIfNull checkProject (absurd rfl)
    | _ => exact overlooks_underOr (fun part => checkProject (emptyIfNull part)) (by simp)
  intro bare filled differs
  have sameGenerators := generators bare filled differs
  have sameProject := project bare filled differs
  obtain ⟨key, below, rfl⟩ : ∃ key below, place = key :: below := by
    cases isPlace <;> exact ⟨_, _, rfl⟩
  cases differs with
  | under differs =>
    dsimp only at sameGenerators sameProject
    rw [ofValue_mapping, ofValue_mapping, sameGenerators, sameProject]

/-! ## Paths without a body -/

theorem underOr_append_cons (default : Value) {name : String} {held : Value}
    {before after : Entries} (differ : KeysDiffer (before ++ (.text name, held) :: after)) :
    underOr default (.mapping (before ++ (.text name, held) :: after)) name = held := by
  have member : (.text name, held) ∈ before ++ (.text name, held) :: after :=
    List.mem_append_right before List.mem_cons_self
  rw [underOr, Value.entries, (under?_eq_some_iff differ).2 member, Option.getD_some]

theorem mem_problems_checkProject {entries : Entries}
    (bare : underOr (.mapping []) (.mapping entries) "paths" = .null) :
    ⟨["paths"], .notMapping⟩ ∈ (checkProject (.mapping entries)).problems := by
  have refused : ⟨["paths"], .notMapping⟩ ∈ ((Checked.mapping Checked.text
      (underOr (.mapping []) (.mapping entries) "paths")).within "paths").problems := by
    rw [bare]
    exact List.mem_cons_self
  rw [checkProject, Checked.problems_map, Checked.problems_and, Checked.problems_and]
  exact List.mem_append_left _ (List.mem_append_right _ refused)

theorem mem_problems_checkSections {entries project : Entries} {problem : Problem}
    (found : underOr .null (.mapping entries) "project" = .mapping project)
    (member : problem ∈ (checkProject (.mapping project)).problems) :
    problem.within "project" ∈ (checkSections entries).problems := by
  have within : problem.within "project" ∈ ((checkProject
      (emptyIfNull (underOr .null (.mapping entries) "project"))).within "project").problems := by
    rw [found, Checked.problems_within]
    exact List.mem_map_of_mem member
  rw [checkSections, Checked.problems_map, Checked.problems_and]
  exact List.mem_append_right _ within

/-- Of two values that differ in the paths only, the one without paths is refused for that. -/
theorem exists_problems_of_bare_paths (wellKeyed : bare.WellKeyed)
    (differs : DiffersAt .null (.mapping []) pathsPlace bare filled) :
    ∃ problems, ofValue bare = .error (.misshapen problems) ∧
      ⟨["project", "paths"], .notMapping⟩ ∈ problems := by
  cases differs with
  | @under _ project _ _ before after differs =>
    have found := underOr_append_cons .null (wellKeyed _ .whole)
    have wellKeyedProject : project.WellKeyed := fun entries part =>
      wellKeyed entries (.held (List.mem_append_right before List.mem_cons_self) part)
    cases differs with
    | under differs =>
      cases differs
      have refused := mem_problems_checkProject
        (underOr_append_cons (.mapping []) (wellKeyedProject _ .whole))
      have member := mem_problems_checkSections found refused
      refine ⟨_, ?_, member⟩
      rw [ofValue, Checked.eq_error_of_mem_problems member]
      rfl

/-! ## Texts -/

theorem readAlike_refl_of_read (read : Yaml.read text = .ok value) :
    ReadAlike (ofText text) (ofText text) := by
  cases outcome : ofText text with
  | ok settings => exact .held settings
  | error fault =>
    rcases fault_of_ofText read outcome with ⟨-, rfl⟩ | ⟨-, problems, rfl⟩
    · exact .refused _ _
    · exact .refused _ _

end Sections

/-! ## Settings with one section -/

section Single

variable {isFilled : Bool} {names : List String} {value : Value} {text : String}

def body (isFilled : Bool) : Value :=
  if isFilled then .mapping [] else .null

/-- A value that holds nothing but one body, under names. -/
def single (part : Value) : List String → Value
  | [] => part
  | name :: names => .mapping [(.text name, single part names)]

/-- Looks whether a value holds nothing but one body under names, where a body may be filled. -/
def isSingle (isFilled : Bool) : List String → Value → Bool
  | [], .null => !isFilled
  | [], .mapping [] => isFilled
  | name :: names, .mapping [(.text key, held)] => key == name && isSingle isFilled names held
  | _, _ => false

theorem eq_single_of_isSingle (found : isSingle isFilled names value = true) :
    value = single (body isFilled) names := by
  induction names generalizing value with
  | nil =>
    unfold isSingle at found
    split at found
    · cases isFilled <;> cases found
      rfl
    · cases isFilled <;> cases found
      rfl
    · contradiction
    · cases found
  | cons name names ih =>
    unfold isSingle at found
    split at found
    · contradiction
    · contradiction
    · next equal =>
      obtain ⟨named, below⟩ := Bool.and_eq_true_iff.1 found
      cases equal
      rw [ih below, eq_of_beq named, single]
    · cases found

theorem read_eq_single_of_isSingle (isFilled : Bool)
    (found : (Yaml.read text).toOption.any (isSingle isFilled names) = true) :
    Yaml.read text = .ok (single (body isFilled) names) := by
  cases read : Yaml.read text with
  | error fault =>
    rw [read] at found
    cases found
  | ok value =>
    rw [read] at found
    exact congrArg Except.ok (eq_single_of_isSingle found)

theorem differsAt_single {part other : Value} (names : List String) :
    DiffersAt part other (names.map .text) (single part names) (single other names) := by
  induction names with
  | nil => exact .here
  | cons name names ih => exact @DiffersAt.under _ _ _ _ _ _ [] [] ih

end Single

/-! ## Bodies that are left out -/

variable {place : List Value} {bare filled : Value} {text other : String}

/-- A section without a body reads as an empty one, at every place but that of the paths. There it is
refused, so the two texts read alike only if the one with empty paths is refused for something else. -/
theorem readAlike_iff_of_differsAt (isPlace : IsSectionPlace place)
    (read : Yaml.read text = .ok bare) (readOther : Yaml.read other = .ok filled)
    (differs : DiffersAt .null (.mapping []) place bare filled) :
    (ReadAlike (ofText text) (ofText other) ↔
      (place = pathsPlace → ∃ fault, ofText other = .error fault)) ∧
    (place ≠ pathsPlace → ofText text = ofText other) ∧
    (place = pathsPlace → ∃ problems, ofText text = .error (.settings (.misshapen problems)) ∧
      ⟨["project", "paths"], .notMapping⟩ ∈ problems) := by
  have elsewhere (unlike : place ≠ pathsPlace) : ofText text = ofText other := by
    rw [ofText, ofText, read, readOther]
    exact congrArg (Except.mapError ReadingFault.settings)
      (overlooks_ofValue isPlace unlike bare filled differs)
  have atPaths (same : place = pathsPlace) :
      ∃ problems, ofText text = .error (.settings (.misshapen problems)) ∧
        ⟨["project", "paths"], .notMapping⟩ ∈ problems := by
    obtain ⟨problems, refused, member⟩ :=
      exists_problems_of_bare_paths (Yaml.wellKeyed_of_read read) (same ▸ differs)
    refine ⟨problems, ?_, member⟩
    rw [ofText, read]
    exact congrArg (Except.mapError ReadingFault.settings) refused
  refine ⟨⟨fun alike same => ?_, fun refusedAtPaths => ?_⟩, elsewhere, atPaths⟩
  · obtain ⟨problems, refused, -⟩ := atPaths same
    rw [refused] at alike
    cases alikeOther : ofText other with
    | ok settings =>
      rw [alikeOther] at alike
      cases alike
    | error fault => exact ⟨fault, rfl⟩
  · by_cases same : place = pathsPlace
    · obtain ⟨problems, refused, -⟩ := atPaths same
      obtain ⟨fault, refusedOther⟩ := refusedAtPaths same
      rw [refused, refusedOther]
      rcases fault_of_ofText readOther refusedOther with ⟨-, rfl⟩ | ⟨-, problems, rfl⟩
      · exact .refused _ _
      · exact .refused _ _
    · rw [elsewhere same]
      exact readAlike_refl_of_read readOther

def filledPathsText : String :=
  "project: {paths: {}}\n"

theorem read_pathlessText : Yaml.read pathlessText = .ok (single .null ["project", "paths"]) :=
  read_eq_single_of_isSingle false (by decide +kernel)

theorem read_filledPathsText :
    Yaml.read filledPathsText = .ok (single (.mapping []) ["project", "paths"]) :=
  read_eq_single_of_isSingle true (by decide +kernel)

/-- Defaults need no body, and paths do. -/
theorem readAlike_of_bare_defaults_and_not_of_bare_paths :
    ReadAlike (ofText "generators: {defaults: }\n") (ofText "generators: {defaults: {}}\n") ∧
      ¬ReadAlike (ofText pathlessText) (ofText filledPathsText) := by
  have readBare : Yaml.read "generators: {defaults: }\n" =
      .ok (single .null ["generators", "defaults"]) :=
    read_eq_single_of_isSingle false (by decide +kernel)
  have readFilled : Yaml.read "generators: {defaults: {}}\n" =
      .ok (single (.mapping []) ["generators", "defaults"]) :=
    read_eq_single_of_isSingle true (by decide +kernel)
  constructor
  · obtain ⟨alike_iff, -, -⟩ := readAlike_iff_of_differsAt .defaults readBare readFilled
      (differsAt_single ["generators", "defaults"])
    exact alike_iff.2 (by simp [pathsPlace])
  · obtain ⟨alike_iff, -, -⟩ := readAlike_iff_of_differsAt .paths read_pathlessText
      read_filledPathsText (differsAt_single ["project", "paths"])
    intro alike
    obtain ⟨fault, refused⟩ := alike_iff.1 alike rfl
    have accepted : (ofText filledPathsText).toOption.isSome = true := by decide +kernel
    rw [refused] at accepted
    cases accepted

/-- Paths without a body and empty ones are not read alike. -/
theorem not_readAlike_of_bare_paths :
    ¬∀ place text other bare filled, IsSectionPlace place → Yaml.read text = .ok bare →
      Yaml.read other = .ok filled → DiffersAt .null (.mapping []) place bare filled →
      ReadAlike (ofText text) (ofText other) := by
  intro everywhere
  have alike := everywhere pathsPlace pathlessText filledPathsText _ _ .paths read_pathlessText
    read_filledPathsText (differsAt_single ["project", "paths"])
  have refused : (ofText pathlessText).toOption.isSome = false := by decide +kernel
  have accepted : (ofText filledPathsText).toOption.isSome = true := by decide +kernel
  cases outcome : ofText pathlessText with
  | ok settings =>
    rw [outcome] at refused
    cases refused
  | error fault =>
    rw [outcome] at alike
    cases same : ofText filledPathsText with
    | ok settings =>
      rw [same] at alike
      cases alike
    | error fault =>
      rw [same] at accepted
      cases accepted

end Scaffold.Settings
