import Scaffold.Proofs.Settings.Content
import Scaffold.Proofs.Shape.Check
import Scaffold.Proofs.Yaml.Keys

/-!
# The shape of settings

A text holds settings exactly if its value has their shape, and then they are what stands in the
value: every entry of the sections for generators and for the project, and nothing else. Sections and
bodies that are null read as empty.
-/

set_option autoImplicit false

namespace Scaffold.Settings

open Checked (anything)

/-- Whether a value is a section with its entries, or one without a body. -/
def IsSection (part : Value) : Prop :=
  part = .null ∨ part.IsMapping

section Under

variable {value default part : Value} {name next : String} {names : List String}

theorem isText_iff {key : Value} : key.isText name = true ↔ key = .text name := by
  cases key <;> simp [Value.isText]

theorem under?_eq_some_iff {entries : Entries} (differ : KeysDiffer entries) :
    under? name entries = some part ↔ (.text name, part) ∈ entries := by
  rw [under?, Option.map_eq_some_iff]
  constructor
  · intro lookup
    obtain ⟨⟨key, held⟩, found, rfl⟩ := lookup
    have named := List.find?_some found
    obtain rfl : key = .text name := isText_iff.1 named
    exact List.mem_of_find?_eq_some found
  · intro member
    cases found : entries.find? (·.1.isText name) with
    | none => exact absurd (isText_iff.2 rfl) (List.find?_eq_none.1 found _ member)
    | some entry =>
      obtain ⟨key, held⟩ := entry
      have named := List.find?_some found
      obtain rfl : key = .text name := isText_iff.1 named
      exact ⟨_, rfl, Value.eq_of_text_mem differ (List.mem_of_find?_eq_some found) member⟩

/-- What a value holds under a name, or another value if there is nothing. -/
def underOr (default value : Value) (name : String) : Value :=
  (under? name value.entries).getD default

end Under

/-! ## Bodies -/

section Bodies

variable {given part : Value} {name command : String} {fields : Fields}
  {overrides : Keyed String Fields}

theorem entries_emptyIfNull (part : Value) : (emptyIfNull part).entries = part.entries := by
  cases part <;> rfl

theorem isMapping_emptyIfNull_iff : (emptyIfNull part).IsMapping ↔ IsSection part := by
  cases part <;> simp [emptyIfNull, IsSection, Value.IsMapping]

end Bodies

/-! ## The settings for generators -/

section Sections

variable {given value : Value} {defaults : Fields} {overrides : Keyed String Fields}
  {project : Project} {settings : Settings}

theorem checkGenerators_eq_ok_iff :
    checkGenerators (emptyIfNull given) = .ok (defaults, overrides) ↔ IsSection given ∧
      Checked.mapping anything (emptyIfNull (underOr .null given "defaults")) = .ok defaults ∧
      Checked.mapping (Checked.mapping anything)
        (emptyBodies (underOr .null given "overrides")) = .ok overrides := by
  rw [← isMapping_emptyIfNull_iff, underOr, underOr, ← entries_emptyIfNull given]
  generalize emptyIfNull given = sections
  cases sections with
  | mapping entries =>
    have isMapping : (Value.mapping entries).IsMapping := ⟨entries, rfl⟩
    simp only [checkGenerators, Checked.and_eq_ok_iff, Checked.within_eq_ok_iff, isMapping,
      true_and, Value.entries]
  | _ =>
    constructor
    · intro passed
      cases passed
    · intro parts
      obtain ⟨_, same⟩ := parts.1
      cases same

theorem nodup_keys_override
    (passed : checkGenerators (emptyIfNull given) = .ok (defaults, overrides)) {command : String}
    {body : Fields} (among : (command, body) ∈ overrides) : (Keyed.keys body).Nodup := by
  obtain ⟨-, -, passedOverrides⟩ := checkGenerators_eq_ok_iff.1 passed
  obtain ⟨bodies, rfl, passedBodies⟩ := Checked.exists_of_mapping passedOverrides
  have found := (Keyed.mem_iff_get?_eq_some (Keyed.nodup_keys_ofList bodies)).1 among
  obtain ⟨raw, passedBody⟩ := passedBodies _ (Keyed.mem_of_get?_ofList found)
  exact Checked.nodup_keys_of_mapping passedBody

/-! ## The whole -/

theorem ofValue_eq_ok_iff :
    ofValue value = .ok settings ↔ IsSection value ∧
      checkGenerators (emptyIfNull (underOr .null value "generators")) =
        .ok (settings.defaults, settings.overrides) ∧
      checkProject (emptyIfNull (underOr .null value "project")) = .ok settings.project := by
  cases value with
  | null =>
    constructor
    · intro read
      cases read
      exact ⟨.inl rfl, rfl, rfl⟩
    · intro parts
      obtain ⟨-, generators, project⟩ := parts
      obtain ⟨defaults, overrides, project⟩ := settings
      cases generators
      cases project
      rfl
  | mapping entries =>
    have isSection : IsSection (.mapping entries) := .inr ⟨entries, rfl⟩
    simp only [ofValue, Result.mapError_eq_ok_iff, checkSections, Result.map_eq_ok_iff,
      Checked.and_eq_ok_iff, Checked.within_eq_ok_iff, isSection, true_and]
    constructor
    · intro checked
      obtain ⟨held, ⟨generators, project⟩, rfl⟩ := checked
      exact ⟨generators, project⟩
    · intro parts
      obtain ⟨generators, project⟩ := parts
      exact ⟨((_, _), _), ⟨generators, project⟩, rfl⟩
  | _ =>
    constructor
    · intro read
      cases read
    · intro parts
      rcases parts.1 with same | ⟨_, same⟩ <;> cases same

/-- Why a value that is read holds no settings. -/
theorem fault_of_ofText {text : String} {fault : ReadingFault} (read : Yaml.read text = .ok value)
    (failed : ofText text = .error fault) :
    (¬IsSection value ∧ fault = .settings .notMapping) ∨
      IsSection value ∧ ∃ problems, fault = .settings (.misshapen problems) := by
  simp only [ofText, read] at failed
  cases value with
  | null => cases failed
  | mapping entries =>
    refine .inr ⟨.inr ⟨entries, rfl⟩, ?_⟩
    cases checked : checkSections entries with
    | ok settings =>
      rw [ofValue, checked] at failed
      cases failed
    | error problems =>
      rw [ofValue, checked] at failed
      cases failed
      exact ⟨problems, rfl⟩
  | _ =>
    cases failed
    refine .inl ⟨fun isSection => ?_, rfl⟩
    rcases isSection with same | ⟨_, same⟩ <;> cases same

end Sections

/-- Settings in which the paths of the project have no body. -/
def pathlessText : String :=
  "project: {paths: }\n"

end Scaffold.Settings
