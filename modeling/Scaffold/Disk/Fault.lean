/-!
# Faults of the disk

A step on the disk fails with a number and a text; an injected fault may lack the number. Which
reads, writes and renames are made to fail is a schedule: the outcome forced on each in turn.
-/

set_option autoImplicit false

namespace Scaffold

structure DiskFault where
  number : Option Int
  text : String
  deriving DecidableEq, Repr

namespace DiskFault

def noEntry : DiskFault := ⟨some 2, "No such file or directory"⟩

def busy : DiskFault := ⟨some 16, "Device or resource busy"⟩

def fileExists : DiskFault := ⟨some 17, "File exists"⟩

def notDirectory : DiskFault := ⟨some 20, "Not a directory"⟩

def isDirectory : DiskFault := ⟨some 21, "Is a directory"⟩

def nameTooLong : DiskFault := ⟨some 36, "File name too long"⟩

def noTemporaryName : DiskFault := ⟨some 17, "No usable temporary file name found"⟩

def message (fault : DiskFault) : String :=
  match fault.number with
  | some number => "[Errno " ++ toString number ++ "] " ++ fault.text
  | none => fault.text

/-- The text of a fault, or its message if there is no number or no text. -/
def reason (fault : DiskFault) : String :=
  if fault.number.isSome && fault.text ≠ "" then fault.text else fault.message

/-- Whether a fault only tells that there is no such entry. -/
def meansAbsent (fault : DiskFault) : Bool :=
  fault = noEntry || fault = notDirectory

end DiskFault

/-- The faults forced on the first, second and later steps of a kind. -/
abbrev Schedule := Nat → Option DiskFault

namespace Schedule

def quiet : Schedule :=
  fun _ => none

/-- The first `count` steps succeed and all later ones fail. -/
def failAfter (count : Nat) (fault : DiskFault) : Schedule :=
  fun step => if step < count then none else some fault

def later (schedule : Schedule) : Schedule :=
  fun step => schedule (step + 1)

end Schedule

/-- The schedules of reading a text, of writing to a temporary file, and of renaming it. -/
structure Injection where
  reads : Schedule
  writes : Schedule
  renames : Schedule

def Injection.quiet : Injection :=
  ⟨.quiet, .quiet, .quiet⟩

end Scaffold
