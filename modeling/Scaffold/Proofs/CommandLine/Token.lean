import Scaffold.CommandLine.Parse
import Scaffold.Proofs.CommandLine.Word

/-!
# Taking the words of a command

A name, options with their values, and switches are taken word by word, each without regard to the
words around it. What all of them give is a fold over them as long as there is one name.
-/

set_option autoImplicit false

namespace Scaffold.CommandLine

open Generator (Spec)

/-- What a word after a command is meant to be. -/
inductive Token where
  | name (text : String)
  | value (option text : String)
  | switch (option : String)
  deriving DecidableEq

namespace Token

/-- How a token is written. -/
def text : Token → String
  | name text => text
  | value option text => valueText option text
  | switch option => switchText option

/-- How a token is to be read. -/
def word : Token → Word
  | name text => .argument text
  | value option text => .option (Known.ofName option .value) (some text)
  | switch option => .option (Known.ofName option .switch) none

def name? : Token → Option String
  | name text => some text
  | value _ _ => none
  | switch _ => none

/-- The option that a token sets, with what it sets it to. -/
def setting? : Token → Option (String × Value)
  | name _ => none
  | value option text => some (option, .text text)
  | switch option => some (option, .truth true)

/-- Whether a command takes a token. -/
def IsOf (spec : Spec) : Token → Prop
  | name text => text.toList.head? ≠ some '-'
  | value option _ => option ∈ spec.valueOptions
  | switch option => option ∈ spec.switches ++ commonSwitches

end Token

/-- What is chosen for a command: its name, values of options, and switches. -/
structure Choice where
  name : String
  values : Keyed String String
  switches : List String

namespace Choice

def tokens (choice : Choice) : List Token :=
  .name choice.name :: (choice.values.map fun entry => .value entry.1 entry.2) ++
    choice.switches.map .switch

/-- What a choice sets the options to. -/
def settings (choice : Choice) : Fields :=
  (choice.values.map fun entry => (entry.1, .text entry.2)) ++
    choice.switches.map fun option => (option, .truth true)

/-- Whether a choice can be made for a command: the name does not look like an option, and the
options and switches are ones of the command, each chosen once. -/
structure IsFor (choice : Choice) (spec : Spec) : Prop where
  name : choice.name.toList.head? ≠ some '-'
  values : ∀ entry ∈ choice.values, entry.1 ∈ spec.valueOptions
  valuesDiffer : (Keyed.keys choice.values).Nodup
  switches : ∀ option ∈ choice.switches, option ∈ spec.switches ++ commonSwitches
  switchesDiffer : choice.switches.Nodup

end Choice

variable {spec : Spec} {token : Token} {tokens : List Token} {given : Given}

/-! ## One token -/

/-- What is given after one more token. -/
def Given.take (given : Given) : Token → Given
  | .name text => { given with name := some text, nameTaken := true }
  | .value option text => given.set option (.text text)
  | .switch option => given.set option (.truth true)

/-- A token is taken as it is meant, a name if there is none before it. -/
theorem takeWords_cons (free : token.name? = none ∨ given.nameTaken = false)
    (tokens : List Token) :
    takeWords ((token.word, token.text) :: tokens.map fun token => (token.word, token.text)) given =
      takeWords (tokens.map fun token => (token.word, token.text)) (given.take token) := by
  cases token with
  | name text =>
    have first : given.nameTaken = false := by
      rcases free with none | first
      · cases none
      · exact first
    rw [Token.word, takeWords]
    simp only [first, Bool.false_eq_true, if_false]
    -- The word after a name would be passed over if it were the divider.
    cases tokens with
    | nil => rfl
    | cons next tokens => cases next <;> rfl
  | value option text => rfl
  | switch option => rfl

theorem Given.nameTaken_take (given : Given) (token : Token) :
    (given.take token).nameTaken = (token.name?.isSome || given.nameTaken) := by
  cases token <;> rfl

/-! ## All tokens -/

/-- Tokens with one name at most are all taken. -/
theorem takeWords_map
    (free : given.nameTaken.toNat + (tokens.filterMap Token.name?).length ≤ 1) :
    takeWords (tokens.map fun token => (token.word, token.text)) given =
      .ok (tokens.foldl Given.take given) := by
  induction tokens generalizing given with
  | nil => rfl
  | cons token tokens ih =>
    rw [List.map_cons, List.foldl_cons]
    cases name : token.name? with
    | none =>
      rw [List.filterMap_cons_none name] at free
      rw [takeWords_cons (Or.inl name), ih]
      rwa [Given.nameTaken_take, name, Option.isSome_none, Bool.false_or]
    | some text =>
      rw [List.filterMap_cons_some name, List.length_cons] at free
      have first : given.nameTaken = false := by
        cases taken : given.nameTaken with
        | false => rfl
        | true =>
          rw [taken, Bool.toNat_true] at free
          omega
      rw [takeWords_cons (Or.inr first), ih]
      rw [Given.nameTaken_take, name, Option.isSome_some, Bool.true_or, Bool.toNat_true]
      omega

theorem values_foldl_take (tokens : List Token) (given : Given) :
    (tokens.foldl Given.take given).values =
      Keyed.overlay given.values (tokens.filterMap Token.setting?) := by
  induction tokens generalizing given with
  | nil => rfl
  | cons token tokens ih =>
    rw [List.foldl_cons, ih]
    cases token <;> rfl

theorem name_foldl_take (tokens : List Token) (given : Given) :
    (tokens.foldl Given.take given).name =
      (tokens.filterMap Token.name?).foldl (fun _ text => some text) given.name := by
  induction tokens generalizing given with
  | nil => rfl
  | cons token tokens ih =>
    rw [List.foldl_cons, ih]
    cases token <;> rfl

theorem others_foldl_take (tokens : List Token) (given : Given) :
    (tokens.foldl Given.take given).others = given.others := by
  induction tokens generalizing given with
  | nil => rfl
  | cons token tokens ih =>
    rw [List.foldl_cons, ih]
    cases token <;> rfl

theorem asksHelp_foldl_take (tokens : List Token) (given : Given) :
    (tokens.foldl Given.take given).asksHelp = given.asksHelp := by
  induction tokens generalizing given with
  | nil => rfl
  | cons token tokens ih =>
    rw [List.foldl_cons, ih]
    cases token <;> rfl

end Scaffold.CommandLine
