import Scaffold.Proofs.CommandLine.Token
import Scaffold.Proofs.Keyed

/-!
# Command lines are read as they are written

A name, values for some of the options of a command and some of its switches, written in any order
after the command, are what the invocation of the command has: each value as it is, whatever its
characters, and nothing that was not given.
-/

set_option autoImplicit false

namespace Scaffold.CommandLine

open Generator (Spec Invocation catalogue jobSpec)

/-! ## Options that can be told apart -/

/-- What the options of a command are like if its words can be read, by the command and before it by
the program, which takes none of them for its own. -/
structure IsReadable (spec : Spec) : Prop where
  command : spec.command.toList.head? ≠ some '-'
  distinct : (optionNames spec).Nodup
  named : ∀ option ∈ optionNames spec, option ≠ ""
  plain : ∀ option ∈ optionNames spec, '=' ∉ option.toList
  spellings : ArePlain (commandOptions spec)
  values : ∀ option ∈ spec.valueOptions,
    (commandOptions spec).find? (·.spelling = switchText option) =
      some (Known.ofName option .value)
  switches : ∀ option ∈ spec.switches ++ commonSwitches,
    (commandOptions spec).find? (·.spelling = switchText option) =
      some (Known.ofName option .switch)
  strange : ∀ option ∈ optionNames spec, IsStrange programOptions option

variable {spec : Spec} {token : Token} {tokens : List Token}

theorem isReadable_of_mem (member : spec ∈ catalogue) : IsReadable spec where
  command := (by decide +kernel : ∀ spec ∈ catalogue, spec.command.toList.head? ≠ some '-')
    spec member
  distinct := (by decide +kernel : ∀ spec ∈ catalogue, (optionNames spec).Nodup) spec member
  named := (by decide +kernel : ∀ spec ∈ catalogue, ∀ option ∈ optionNames spec,
    option ≠ "") spec member
  plain := (by decide +kernel : ∀ spec ∈ catalogue, ∀ option ∈ optionNames spec,
    '=' ∉ option.toList) spec member
  spellings := (by decide +kernel : ∀ spec ∈ catalogue, ArePlain (commandOptions spec)) spec member
  values := (by decide +kernel : ∀ spec ∈ catalogue, ∀ option ∈ spec.valueOptions,
    (commandOptions spec).find? (·.spelling = switchText option) =
      some (Known.ofName option .value)) spec member
  switches := (by decide +kernel : ∀ spec ∈ catalogue,
    ∀ option ∈ spec.switches ++ commonSwitches,
      (commandOptions spec).find? (·.spelling = switchText option) =
        some (Known.ofName option .switch)) spec member
  strange := (by decide +kernel : ∀ spec ∈ catalogue, ∀ option ∈ optionNames spec,
    IsStrange programOptions option) spec member

theorem nodup_commands : (catalogue.map Spec.command).Nodup := by
  decide +kernel

theorem find?_command (member : spec ∈ catalogue) :
    Generator.find? spec.command = some spec := by
  cases found : Generator.find? spec.command with
  | none =>
    have differs := List.find?_eq_none.1 found spec member
    simp at differs
  | some other =>
    have same : other.command = spec.command := by
      simpa using List.find?_some found
    rw [List.inj_on_of_nodup_map nodup_commands (List.mem_of_find?_eq_some found) member same]

/-! ## Reading the words -/

theorem mem_optionNames_of_mem_valueOptions {option : String}
    (member : option ∈ spec.valueOptions) : option ∈ optionNames spec := by
  rw [optionNames, List.append_assoc]
  exact List.mem_append_left _ member

theorem mem_optionNames_of_mem_switches {option : String}
    (member : option ∈ spec.switches ++ commonSwitches) : option ∈ optionNames spec := by
  rw [optionNames, List.append_assoc]
  exact List.mem_append_right _ member

namespace IsReadable

theorem text_ne_divider (readable : IsReadable spec) (isOf : token.IsOf spec) :
    token.text ≠ "--" := by
  intro divider
  have hyphens : token.text.toList = ['-', '-'] := congrArg String.toList divider
  cases token with
  | name text =>
    apply isOf
    rw [show text.toList = ['-', '-'] from hyphens]
    rfl
  | value option text =>
    rw [Token.text, toList_valueText_cons] at hyphens
    simp at hyphens
  | switch option =>
    rw [Token.text, toList_switchText] at hyphens
    apply readable.named option (mem_optionNames_of_mem_switches isOf)
    simpa using hyphens

/-- The command reads each of its words as it is meant. -/
theorem ofText_text (readable : IsReadable spec) (isOf : token.IsOf spec) :
    Word.ofText (commandOptions spec) token.text = .ok token.word := by
  cases token with
  | name text => exact ofText_argument isOf
  | value option text =>
    exact ofText_valueText readable.spellings
      (readable.plain option (mem_optionNames_of_mem_valueOptions isOf))
      (readable.values option isOf) text
  | switch option => exact ofText_switchText (readable.switches option isOf)

/-- The program finds no fault with a word of the command. -/
theorem exists_ofText (readable : IsReadable spec) (isOf : token.IsOf spec) :
    ∃ word, Word.ofText programOptions token.text = .ok word := by
  cases token with
  | name text => exact ⟨_, ofText_argument isOf⟩
  | value option text =>
    have member := mem_optionNames_of_mem_valueOptions isOf
    exact exists_ofText_of_isStrange (readable.strange option member)
      (toList_valueText_cons option text) (splitValue_valueText (readable.plain option member) text)
  | switch option =>
    have member := mem_optionNames_of_mem_switches isOf
    exact exists_ofText_of_isStrange (readable.strange option member)
      (toList_switchText option) (splitValue_switchText (readable.plain option member))

/-- The command reads all of its words as they are meant. -/
theorem ofTexts_map (readable : IsReadable spec) (areOf : ∀ token ∈ tokens, token.IsOf spec) :
    Word.ofTexts (commandOptions spec) (tokens.map Token.text) = .ok (tokens.map Token.word) := by
  induction tokens with
  | nil => rfl
  | cons token tokens ih =>
    obtain ⟨isOf, areOfBelow⟩ := List.forall_mem_cons.1 areOf
    rw [List.map_cons, List.map_cons,
      ofTexts_cons (readable.text_ne_divider isOf) (readable.ofText_text isOf), ih areOfBelow]
    rfl

theorem exists_ofTexts (readable : IsReadable spec) (areOf : ∀ token ∈ tokens, token.IsOf spec) :
    ∃ words, Word.ofTexts programOptions (tokens.map Token.text) = .ok words ∧
      words.length = tokens.length := by
  induction tokens with
  | nil => exact ⟨[], rfl, rfl⟩
  | cons token tokens ih =>
    obtain ⟨isOf, areOfBelow⟩ := List.forall_mem_cons.1 areOf
    obtain ⟨words, below, same⟩ := ih areOfBelow
    obtain ⟨word, read⟩ := readable.exists_ofText isOf
    refine ⟨word :: words, ?_, congrArg Nat.succ same⟩
    rw [List.map_cons, ofTexts_cons (readable.text_ne_divider isOf) read, below]
    rfl

end IsReadable

/-! ## Choices -/

namespace Choice

variable {choice : Choice}

theorem name?_tokens (choice : Choice) : choice.tokens.filterMap Token.name? = [choice.name] := by
  have values : (choice.values.map fun entry => Token.value entry.1 entry.2).filterMap
      Token.name? = [] := by
    rw [List.filterMap_map]
    exact List.filterMap_eq_nil_iff.2 fun _ _ => rfl
  have switches : (choice.switches.map Token.switch).filterMap Token.name? = [] := by
    rw [List.filterMap_map]
    exact List.filterMap_eq_nil_iff.2 fun _ _ => rfl
  have first : (Token.name choice.name).name? = some choice.name := rfl
  rw [tokens, List.cons_append, List.filterMap_cons_some first, List.filterMap_append, values,
    switches, List.append_nil]

theorem setting?_tokens (choice : Choice) :
    choice.tokens.filterMap Token.setting? = choice.settings := by
  rw [tokens, List.cons_append, List.filterMap_cons_none rfl, List.filterMap_append,
    List.filterMap_map, List.filterMap_map, settings, ← List.filterMap_eq_map,
    ← List.filterMap_eq_map]
  rfl

theorem keys_settings (choice : Choice) :
    Keyed.keys choice.settings = Keyed.keys choice.values ++ choice.switches := by
  simp [settings, Keyed.keys, Function.comp_def]

namespace IsFor

theorem areOf (isFor : choice.IsFor spec) : ∀ token ∈ choice.tokens, token.IsOf spec := by
  simp only [tokens, List.forall_mem_append, List.forall_mem_cons, List.forall_mem_map]
  exact ⟨⟨isFor.name, isFor.values⟩, isFor.switches⟩

theorem keys_subset (isFor : choice.IsFor spec) :
    ∀ key ∈ Keyed.keys choice.settings, key ∈ optionNames spec := by
  intro key member
  rw [keys_settings, List.mem_append] at member
  rcases member with inValues | inSwitches
  · obtain ⟨entry, listed, rfl⟩ := List.mem_map.1 inValues
    exact mem_optionNames_of_mem_valueOptions (isFor.values entry listed)
  · exact mem_optionNames_of_mem_switches (isFor.switches key inSwitches)

theorem nodup_keys (isFor : choice.IsFor spec) (distinct : (optionNames spec).Nodup) :
    (Keyed.keys choice.settings).Nodup := by
  rw [keys_settings]
  refine List.nodup_append.2 ⟨isFor.valuesDiffer, isFor.switchesDiffer, ?_⟩
  rw [optionNames, List.append_assoc] at distinct
  intro key inValues option inSwitches
  obtain ⟨entry, member, rfl⟩ := List.mem_map.1 inValues
  exact (List.nodup_append.1 distinct).2.2 _ (isFor.values entry member) _
    (isFor.switches option inSwitches)

end IsFor

end Choice

/-! ## The invocation -/

/-- The entries of an invocation are in the order of the options. -/
def entriesOf (names : List String) (settings : Fields) : Fields :=
  names.filterMap fun name => (Keyed.get? name settings).map fun value => (name, value)

theorem mem_entriesOf_iff {names : List String} {settings : Fields} {key : String} {value : Value} :
    (key, value) ∈ entriesOf names settings ↔
      key ∈ names ∧ Keyed.get? key settings = some value := by
  rw [entriesOf, List.mem_filterMap]
  constructor
  · rintro ⟨name, listed, made⟩
    obtain ⟨held, found, same⟩ := Option.map_eq_some_iff.1 made
    cases same
    exact ⟨listed, found⟩
  · rintro ⟨listed, found⟩
    exact ⟨key, listed, by rw [found, Option.map_some]⟩

theorem nodup_keys_entriesOf {names : List String} (distinct : names.Nodup) (settings : Fields) :
    (Keyed.keys (entriesOf names settings)).Nodup := by
  induction names with
  | nil => exact List.nodup_nil
  | cons name names ih =>
    obtain ⟨fresh, below⟩ := List.nodup_cons.1 distinct
    cases found : Keyed.get? name settings with
    | none =>
      have skipped : entriesOf (name :: names) settings = entriesOf names settings :=
        List.filterMap_cons_none (by rw [found, Option.map_none])
      rw [skipped]
      exact ih below
    | some value =>
      have made : entriesOf (name :: names) settings = (name, value) :: entriesOf names settings :=
        List.filterMap_cons_some (by rw [found, Option.map_some])
      rw [made]
      refine List.nodup_cons.2 ⟨?_, ih below⟩
      intro member
      obtain ⟨entry, listed, same⟩ := List.mem_map.1 member
      have known := (mem_entriesOf_iff.1 listed).1
      rw [same] at known
      exact fresh known

/-- The options of an invocation are what was given, when all of it is known and given once. -/
theorem perm_options_invocationOf {settings : Fields} {given : Given}
    (distinct : (optionNames spec).Nodup)
    (known : ∀ key ∈ Keyed.keys settings, key ∈ optionNames spec)
    (settingsDiffer : (Keyed.keys settings).Nodup)
    (same : ∀ key, Keyed.get? key given.values = Keyed.get? key settings) :
    (invocationOf spec given).options.Perm settings := by
  have entriesDiffer := nodup_keys_entriesOf distinct given.values
  have options_eq : (invocationOf spec given).options = entriesOf (optionNames spec) given.values :=
    Keyed.ofList_of_nodup entriesDiffer
  rw [options_eq]
  refine (List.perm_ext_iff_of_nodup entriesDiffer.of_map settingsDiffer.of_map).2 ?_
  intro entry
  obtain ⟨key, value⟩ := entry
  rw [mem_entriesOf_iff, same, ← Keyed.mem_iff_get?_eq_some settingsDiffer, and_iff_right_iff_imp]
  intro member
  exact known key (List.mem_map_of_mem member)

/-- What the words of a choice give, in whatever order they are taken. -/
theorem get?_values_foldl_take {choice : Choice} (isFor : choice.IsFor spec)
    (distinct : (optionNames spec).Nodup) (order : tokens.Perm choice.tokens) (key : String) :
    Keyed.get? key (tokens.foldl Given.take .start).values =
      Keyed.get? key choice.settings := by
  have settings : (tokens.filterMap Token.setting?).Perm choice.settings := by
    rw [← choice.setting?_tokens]
    exact order.filterMap _
  have differ := isFor.nodup_keys distinct
  have keysPerm : (Keyed.keys (tokens.filterMap Token.setting?)).Perm
      (Keyed.keys choice.settings) := settings.map Prod.fst
  have tokensDiffer := keysPerm.nodup_iff.2 differ
  have none : Keyed.get? key (Given.start.values) = Option.none := rfl
  rw [values_foldl_take, Keyed.get?_overlay_of_nodup tokensDiffer, none, Option.or_none]
  apply Option.ext
  intro value
  rw [← Keyed.mem_iff_get?_eq_some tokensDiffer, ← Keyed.mem_iff_get?_eq_some differ]
  exact settings.mem_iff

/-- A command that reads its words takes all of them. -/
theorem takeCommand_tokens (readable : IsReadable spec)
    (areOf : ∀ token ∈ tokens, token.IsOf spec)
    (oneName : (tokens.filterMap Token.name?).length ≤ 1) :
    takeCommand spec (tokens.map Token.text) = .ok (tokens.foldl Given.take .start) := by
  have free : Given.start.nameTaken.toNat + (tokens.filterMap Token.name?).length ≤ 1 := by
    simpa [Given.start] using oneName
  have paired : (tokens.map Token.word).zip (tokens.map Token.text) =
      tokens.map fun token => (token.word, token.text) := List.zip_map'
  rw [← takeWords_map free, takeCommand, readable.ofTexts_map areOf, ← paired]
  rfl

/-- The program leaves all words after the command to the command. -/
theorem parse_tokens (readable : IsReadable spec)
    (areOf : ∀ token ∈ tokens, token.IsOf spec) :
    parse (spec.command :: tokens.map Token.text) =
      takeChosen ⟨none, false, []⟩ spec.command (tokens.map Token.text) := by
  obtain ⟨words, read, same⟩ := readable.exists_ofTexts areOf
  have notDivider : spec.command ≠ "--" := by
    intro divider
    apply readable.command
    rw [divider]
    rfl
  have texts : (words.zip (tokens.map Token.text)).map Prod.snd = tokens.map Token.text := by
    apply List.map_snd_zip
    rw [List.length_map, same]
  have command : Word.ofText programOptions spec.command = .ok (.argument spec.command) :=
    ofText_argument readable.command
  have handed : parse (spec.command :: tokens.map Token.text) =
      takeChosen ⟨none, false, []⟩ spec.command
        ((words.zip (tokens.map Token.text)).map Prod.snd) := by
    rw [parse, ofTexts_cons notDivider command, read]
    rfl
  rw [handed, texts]

theorem takeChosen_of_takeCommand {texts : List String} {given : Given}
    (found : Generator.find? spec.command = some spec)
    (taken : takeCommand spec texts = .ok given) (noHelp : given.asksHelp = false)
    (noOthers : given.others = []) :
    takeChosen ⟨none, false, []⟩ spec.command texts =
      .ok (.parsed none false (some (spec, invocationOf spec given))) := by
  have handed : takeChosen ⟨none, false, []⟩ spec.command texts =
      if given.asksHelp = true then .ok .help
      else finish ⟨none, false, []⟩ given.others (some (spec, invocationOf spec given)) := by
    rw [takeChosen, found]
    simp only [taken]
    rfl
  rw [handed, noHelp, noOthers]
  rfl

/-- A name, values and switches that a command takes are read as they are from the words that they
are written with, in whatever order. -/
theorem exists_parse_of_perm {choice : Choice} (member : spec ∈ catalogue)
    (isFor : choice.IsFor spec) (order : tokens.Perm choice.tokens) :
    ∃ invocation, parse (spec.command :: tokens.map Token.text) =
        .ok (.parsed none false (some (spec, invocation))) ∧
      invocation.positional = [choice.name] ∧ invocation.options.Perm choice.settings := by
  have readable := isReadable_of_mem member
  have areOf : ∀ token ∈ tokens, token.IsOf spec := by
    intro token listed
    exact isFor.areOf token (order.mem_iff.1 listed)
  have name : tokens.filterMap Token.name? = [choice.name] := by
    apply List.perm_singleton.1
    rw [← choice.name?_tokens]
    exact order.filterMap _
  have taken := takeCommand_tokens readable areOf (by rw [name]; rfl)
  refine ⟨invocationOf spec (tokens.foldl Given.take .start), ?_, ?_, ?_⟩
  · rw [parse_tokens readable areOf]
    exact takeChosen_of_takeCommand (find?_command member) taken
      (asksHelp_foldl_take tokens .start) (others_foldl_take tokens .start)
  · rw [invocationOf, name_foldl_take, name]
    rfl
  · exact perm_options_invocationOf readable.distinct isFor.keys_subset
      (isFor.nodup_keys readable.distinct) (get?_values_foldl_take isFor readable.distinct order)

/-- A name among its options, with a value that is empty and one that looks like an option. -/
theorem exists_parse_sendEmail :
    ∃ invocation, parse ["make:job", "--preview", "--tries=", "SendEmail", "--queue=--x=1 2",
        "--logging"] = .ok (.parsed none false (some (jobSpec, invocation))) ∧
      invocation.positional = ["SendEmail"] ∧
      invocation.options.Perm [("queue", .text "--x=1 2"), ("tries", .text ""),
        ("logging", .truth true), ("preview", .truth true)] := by
  have member : jobSpec ∈ catalogue := by simp [catalogue]
  have isFor : Choice.IsFor
      ⟨"SendEmail", [("queue", "--x=1 2"), ("tries", "")], ["logging", "preview"]⟩ jobSpec :=
    ⟨by decide, by decide, by decide, by decide, by decide⟩
  have order : List.Perm
      [Token.switch "preview", .value "tries" "", .name "SendEmail", .value "queue" "--x=1 2",
        .switch "logging"]
      (Choice.tokens
        ⟨"SendEmail", [("queue", "--x=1 2"), ("tries", "")], ["logging", "preview"]⟩) := by
    decide
  have found := exists_parse_of_perm member isFor order
  exact found

end Scaffold.CommandLine
