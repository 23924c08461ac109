import Scaffold.CommandLine.Help
import Scaffold.CommandLine.Parse
import Scaffold.Console.Table
import Scaffold.Generator.Run

/-!
# The program

The program reads its command line, finds the root of the project, and lists the generators, runs
one of them, or tells how it is used.
-/

set_option autoImplicit false

namespace Scaffold.CommandLine

open Generator (Spec Action catalogue)

/-- What surrounds a run: the root that the environment names, and the working directory. -/
structure Surroundings where
  root : Option String
  directory : Path

/-- The root of the project: the one given, else the one the environment names, else the working
directory. -/
def resolveRoot (given : Option String) (surroundings : Surroundings) : Path :=
  match given, surroundings.root with
  | some root, _ => Path.ofString root
  | none, some root => if root = "" then surroundings.directory else Path.ofString root
  | none, none => surroundings.directory

/-- What a run leaves beside its report: an exit code and texts on the two standard channels. -/
structure Exit where
  code : Nat
  output : String
  error : String

private def listing : String :=
  String.ofList (Console.table "Available generators" ["Command", "Description", "Usage"]
    (catalogue.map fun spec => [spec.command, spec.description, spec.usage]))

/-- Runs the program. -/
def main (texts : List String) (surroundings : Surroundings) : Action Exit := do
  match parse texts with
  | .error usage => return ⟨2, "", usage.message ++ "\n"⟩
  | .ok .help => return ⟨0, helpText, ""⟩
  | .ok (.parsed root lists chosen) =>
    if lists then
      WorkspaceAction.report listing
      return ⟨0, "", ""⟩
    else
      match chosen with
      | none => return ⟨1, helpText, ""⟩
      | some (spec, invocation) =>
        return ⟨← Generator.run (resolveRoot root surroundings) spec invocation, "", ""⟩

end Scaffold.CommandLine
