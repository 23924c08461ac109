import Scaffold.Value.Display

/-!
# Problems of a shape

Where in a structured value something does not have the expected shape, and what was expected there.
-/

set_option autoImplicit false

namespace Scaffold

inductive Mismatch where
  | missing
  | notText
  | undecodableText
  | notMapping
  | notSection
  | notName
  | notTruth
  | unclearTruth
  | rejected (reason : String)
  deriving DecidableEq, Repr

structure Problem where
  place : List String
  mismatch : Mismatch
  deriving DecidableEq, Repr

namespace Problem

/-- Stands for a key itself, as opposed to the value under it. -/
def keyItself : String := "[key]"

/-- How a key of a mapping is named in a place. -/
def keyName : Value → String
  | .text content => content
  | .truth holds => if holds then "1" else "0"
  | key => key.quoted

/-- The problem seen from one level further out. -/
def within (name : String) (problem : Problem) : Problem :=
  { problem with place := name :: problem.place }

end Problem

end Scaffold
