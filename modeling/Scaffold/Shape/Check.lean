import Scaffold.Keyed
import Scaffold.Shape.Problem
import Scaffold.Text.Utf8
import Scaffold.Text.WordCase

/-!
# Checks of shapes

A check gives what a value is as an expected shape, or every problem that keeps it from being that.
-/

set_option autoImplicit false

namespace Scaffold

abbrev Checked (α : Type) := Except (List Problem) α

namespace Checked

variable {α β : Type}

def fail (mismatch : Mismatch) : Checked α :=
  .error [⟨[], mismatch⟩]

def problems : Checked α → List Problem
  | .ok _ => []
  | .error problems => problems

/-- Both results, or the problems of both. -/
def and (first : Checked α) (second : Checked β) : Checked (α × β) :=
  match first, second with
  | .ok first, .ok second => .ok (first, second)
  | first, second => .error (first.problems ++ second.problems)

def within (name : String) (checked : Checked α) : Checked α :=
  checked.mapError fun problems => problems.map (·.within name)

/-- A text, also one given as its octets. -/
def text : Value → Checked String
  | .text content => .ok content
  | .octets octets =>
    match Text.decode ⟨octets.toArray⟩ with
    | .ok content => .ok content
    | .error _ => fail .undecodableText
  | _ => fail .notText

def anything (value : Value) : Checked Value :=
  .ok value

/-- A text or nothing. -/
def optionalText : Value → Checked (Option String)
  | .null => .ok none
  | value => (text value).map some

/-- The words that stand for true and false in any case. -/
def truthWords : List (String × Bool) :=
  [("1", true), ("on", true), ("t", true), ("true", true), ("y", true), ("yes", true),
    ("0", false), ("off", false), ("f", false), ("false", false), ("n", false), ("no", false)]

def truthOfNumber (number : Int) : Checked Bool :=
  if number = 0 then .ok false else if number = 1 then .ok true else fail .unclearTruth

/-- A truth value, also one given by its number or a word for it. -/
def truth : Value → Checked Bool
  | .truth holds => .ok holds
  | .integer amount => truthOfNumber amount
  | .number amount => amount.toInt?.elim (fail .notTruth) truthOfNumber
  | .text content =>
    match truthWords.lookup (Text.lowerCase content) with
    | some holds => .ok holds
    | none => fail .unclearTruth
  | _ => fail .notTruth

def entriesFrom (value : Value → Checked α) : List (Value × Value) →
    Checked (List (String × α))
  | [] => .ok []
  | (key, held) :: entries =>
    let name := Problem.keyName key
    let entry :=
      ((text key).within Problem.keyItself).within name |>.and ((value held).within name)
    (entry.and (entriesFrom value entries)).map fun (entry, entries) => entry :: entries

/-- A mapping from texts to what `value` accepts. -/
def mapping (value : Value → Checked α) : Value → Checked (Keyed String α)
  | .mapping entries => (entriesFrom value entries).map Keyed.ofList
  | _ => fail .notMapping

end Checked

end Scaffold
