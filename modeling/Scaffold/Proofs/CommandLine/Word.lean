import Mathlib.Data.List.TakeWhile
import Scaffold.CommandLine.Word
import Scaffold.Proofs.Text.Search

/-!
# How one word is read

A word with an equals sign stands for the option before the sign if that is one, whatever comes after
it. A word that begins like no option is not taken for a shortened one.
-/

set_option autoImplicit false

namespace Scaffold.CommandLine

/-! ## Words -/

/-- The word of a switch, or of an option whose value is in the next word. -/
def switchText (option : String) : String :=
  "--" ++ option

/-- The word of an option with its value. -/
def valueText (option value : String) : String :=
  switchText option ++ "=" ++ value

theorem toList_switchText (option : String) :
    (switchText option).toList = '-' :: '-' :: option.toList := by
  simp [switchText]

theorem toList_valueText (option value : String) :
    (valueText option value).toList = (switchText option).toList ++ '=' :: value.toList := by
  simp [valueText]

theorem toList_valueText_cons (option value : String) :
    (valueText option value).toList = '-' :: '-' :: (option.toList ++ '=' :: value.toList) := by
  rw [toList_valueText, toList_switchText, List.cons_append, List.cons_append]

theorem equals_not_mem_switchText {option : String} (plain : '=' ∉ option.toList) :
    '=' ∉ (switchText option).toList := by
  rw [toList_switchText]
  simpa using plain

/-! ## The equals sign -/

theorem splitValue_of_not_mem {word : List Char} (plain : '=' ∉ word) :
    splitValue word = (word, none) := by
  have dropped : word.dropWhile (· ≠ '=') = [] := by
    rw [List.dropWhile_eq_nil_iff]
    intro character member
    rw [decide_eq_true_eq]
    rintro rfl
    exact plain member
  rw [splitValue, dropped]

theorem splitValue_append {start : List Char} (plain : '=' ∉ start) (value : List Char) :
    splitValue (start ++ '=' :: value) = (start, some value) := by
  have before : ∀ character ∈ start, decide (character ≠ '=') = true := by
    intro character member
    rw [decide_eq_true_eq]
    rintro rfl
    exact plain member
  have dropped : (start ++ '=' :: value).dropWhile (· ≠ '=') = '=' :: value := by
    rw [List.dropWhile_append_of_pos before, List.dropWhile_cons_of_neg (by simp)]
  have taken : (start ++ '=' :: value).takeWhile (· ≠ '=') = start := by
    rw [List.takeWhile_append_of_pos before, List.takeWhile_cons_of_neg (by simp), List.append_nil]
  rw [splitValue, dropped]
  simp only [taken]

variable {known : List Known} {option : String} {found : Known}

theorem splitValue_switchText (plain : '=' ∉ option.toList) :
    splitValue (switchText option).toList = ((switchText option).toList, none) :=
  splitValue_of_not_mem (equals_not_mem_switchText plain)

theorem splitValue_valueText (plain : '=' ∉ option.toList) (value : String) :
    splitValue (valueText option value).toList =
      ((switchText option).toList, some value.toList) := by
  rw [toList_valueText]
  exact splitValue_append (equals_not_mem_switchText plain) value.toList

/-! ## Options that are known -/

/-- No spelling of an option has an equals sign in it. -/
def ArePlain (known : List Known) : Prop :=
  ∀ other ∈ known, '=' ∉ other.spelling.toList

instance (known : List Known) : Decidable (ArePlain known) :=
  inferInstanceAs (Decidable (∀ other ∈ known, '=' ∉ other.spelling.toList))

theorem ofText_eq_hyphenated {text : String} {rest : List Char}
    (hyphens : text.toList = '-' :: '-' :: rest) :
    Word.ofText known text = hyphenated known text := by
  unfold Word.ofText
  split
  · rfl
  · next single => exact absurd hyphens (single '-' rest)

theorem ArePlain.find?_eq_none (arePlain : ArePlain known) {word : String}
    (equals : '=' ∈ word.toList) : known.find? (·.spelling = word) = none := by
  rw [List.find?_eq_none]
  intro other member same
  rw [decide_eq_true_eq] at same
  rw [← same] at equals
  exact arePlain other member equals

theorem find?_toList_eq (known : List Known) (spelling : String) :
    known.find? (·.spelling.toList = spelling.toList) = known.find? (·.spelling = spelling) := by
  congr 1
  funext other
  exact decide_eq_decide.2 String.toList_inj

theorem ofText_argument {text : String} (other : text.toList.head? ≠ some '-') :
    Word.ofText known text = .ok (.argument text) := by
  unfold Word.ofText
  split
  · next hyphen => simp [hyphen] at other
  · rfl

theorem ofText_switchText (listed : known.find? (·.spelling = switchText option) = some found) :
    Word.ofText known (switchText option) = .ok (.option found none) := by
  rw [ofText_eq_hyphenated (toList_switchText option), hyphenated]
  simp only [listed]

theorem ofText_valueText (arePlain : ArePlain known) (plain : '=' ∉ option.toList)
    (listed : known.find? (·.spelling = switchText option) = some found) (value : String) :
    Word.ofText known (valueText option value) = .ok (.option found (some value)) := by
  have equals : '=' ∈ (valueText option value).toList := by
    rw [toList_valueText]
    simp
  have whole := arePlain.find?_eq_none equals
  have start := find?_toList_eq known (switchText option)
  rw [ofText_eq_hyphenated (toList_valueText_cons option value), hyphenated,
    splitValue_valueText plain]
  simp only [whole, start, listed, String.ofList_toList]

/-! ## Options that are not -/

/-- Whether no option begins like the word of another one. -/
def IsStrange (known : List Known) (option : String) : Prop :=
  ∀ other ∈ known, hasStart (switchText option).toList other = false

instance (known : List Known) (option : String) : Decidable (IsStrange known option) :=
  inferInstanceAs (Decidable (∀ other ∈ known, hasStart (switchText option).toList other = false))

/-- A word is read without fault if no option begins like what is before its equals sign. -/
theorem exists_ofText_of_isStrange (strange : IsStrange known option) {word : String}
    {value : Option (List Char)} {rest : List Char} (hyphens : word.toList = '-' :: '-' :: rest)
    (split : splitValue word.toList = ((switchText option).toList, value)) :
    ∃ read, Word.ofText known word = .ok read := by
  have none : known.filter (hasStart (switchText option).toList) = [] := by
    rw [List.filter_eq_nil_iff]
    intro other member begins
    rw [strange other member] at begins
    cases begins
  have noCandidates : candidates known word.toList = [] := by
    rw [hyphens] at split ⊢
    simp only [candidates, split, none, List.map_nil]
  have noStart : known.find? (·.spelling.toList = (switchText option).toList) = Option.none := by
    rw [List.find?_eq_none]
    intro other member same
    rw [decide_eq_true_eq] at same
    have begins : hasStart (switchText option).toList other = true :=
      Text.after?_isSome_iff.2 ⟨[], by rw [same, List.append_nil]⟩
    rw [strange other member] at begins
    cases begins
  rw [ofText_eq_hyphenated hyphens, hyphenated, split]
  simp only [noStart, noCandidates]
  cases known.find? (·.spelling = word) with
  | none => exact ⟨_, rfl⟩
  | some other => exact ⟨_, rfl⟩

/-! ## All words -/

theorem ofTexts_cons {text : String} {word : Word} (notDivider : text ≠ "--")
    (read : Word.ofText known text = .ok word) (texts : List String) :
    Word.ofTexts known (text :: texts) =
      (Word.ofTexts known texts).map (word :: ·) := by
  rw [Word.ofTexts.eq_3 _ _ _ notDivider, read]
  cases Word.ofTexts known texts <;> rfl

end Scaffold.CommandLine
