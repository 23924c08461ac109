import Scaffold.Proofs.Settings.Shape

/-!
# The layers of a value

A switch or an option has its value from the first layer that names it: what is given, the settings
for its generator, the settings for all generators, and what is built in. No other entry of any layer
counts.
-/

set_option autoImplicit false

namespace Scaffold.Settings

variable {settings : Settings} {command name : String}

/-- The value that the settings for one generator have under a name. -/
def override? (settings : Settings) (command name : String) : Option Value :=
  (Keyed.get? command settings.overrides).bind fun body => body.get? name

/-- The value of a switch. A layer that names it counts, also with a null, which is off. -/
def layeredSwitch (settings : Settings) (command : String) (given : Fields) (name : String) :
    Bool :=
  match given.get? name, settings.override? command name, settings.defaults.get? name with
  | some _, _, _ => true
  | none, some value, _ => value.holds
  | none, none, some value => value.holds
  | none, none, none => false

/-- The value of an option. A null in the settings for its generator hides the value in the settings
for all generators. -/
def layeredOption (settings : Settings) (command : String) (given : Fields) (name : String)
    (builtIn : Value) : Value :=
  match given.get? name, settings.override? command name, settings.defaults.get? name with
  | some value, _, _ => value
  | none, some .null, _ => builtIn
  | none, some value, _ => value
  | none, none, some .null => builtIn
  | none, none, some value => value
  | none, none, none => builtIn

/-! ## Settings that passed the checks -/

/-- Whether settings are those that a value holds. -/
def IsValidated (settings : Settings) : Prop :=
  ∃ value, ofValue value = .ok settings

theorem isValidated_empty : IsValidated .empty :=
  ⟨.null, rfl⟩

theorem isValidated_of_holds {disk : Disk} {root : Path} (holds : Holds disk root settings) :
    settings.IsValidated := by
  obtain ⟨_, value, -, -, held⟩ := holds
  exact ⟨value, held⟩

/-- In validated settings every name occurs once among those for one generator. -/
theorem IsValidated.nodup_override (validated : settings.IsValidated) {body : Fields}
    (found : Keyed.get? command settings.overrides = some body) : (Keyed.keys body).Nodup := by
  obtain ⟨value, held⟩ := validated
  obtain ⟨-, generators, -⟩ := ofValue_eq_ok_iff.1 held
  exact nodup_keys_override generators (Keyed.mem_of_get?_eq_some found)

/-! ## The configured values -/

theorem IsValidated.get?_valuesFor (validated : settings.IsValidated) (command name : String) :
    (settings.valuesFor command).get? name =
      (settings.override? command name).or (settings.defaults.get? name) := by
  rw [valuesFor, override?]
  cases found : Keyed.get? command settings.overrides with
  | none => rfl
  | some body =>
    exact Keyed.get?_overlay_of_nodup (validated.nodup_override found) name settings.defaults

theorem IsValidated.switchIsOn_eq (validated : settings.IsValidated) (command : String)
    (given : Fields) (name : String) :
    switchIsOn (settings.valuesFor command) given name =
      settings.layeredSwitch command given name := by
  rw [switchIsOn, validated.get?_valuesFor, Fields.has, layeredSwitch]
  cases given.get? name with
  | some value => rfl
  | none =>
    cases settings.override? command name with
    | some value => rfl
    | none => cases settings.defaults.get? name <;> rfl

theorem IsValidated.optionValue_eq (validated : settings.IsValidated) (command : String)
    (given : Fields) (name : String) (builtIn : Value) :
    optionValue (settings.valuesFor command) given name builtIn =
      settings.layeredOption command given name builtIn := by
  rw [optionValue, configuredValue, validated.get?_valuesFor, layeredOption]
  cases given.get? name with
  | some value => rfl
  | none =>
    cases settings.override? command name with
    | some value => cases value <;> rfl
    | none =>
      cases settings.defaults.get? name with
      | some value => cases value <;> rfl
      | none => rfl

end Scaffold.Settings
