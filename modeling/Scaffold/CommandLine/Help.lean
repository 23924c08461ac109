import Scaffold.Generator.Catalogue

/-!
# Help

The text that tells how the program is used: a usage line, the commands with what they do, the
options, and examples. What a command or an option does stands in a column of its own.
-/

set_option autoImplicit false

namespace Scaffold.CommandLine

open Generator (Spec programName catalogue)

/-- How wide the help is. -/
def helpWidth : Nat := 78

/-- Where the second column begins. -/
def helpColumn : Nat := 19

private def spaces (count : Nat) : String :=
  String.ofList (List.replicate count ' ')

/-- Sets words on lines of a width after a line in progress. -/
private def fillLines (width : Nat) : String → List String → List String
  | line, [] => [line]
  | line, word :: words =>
    if line.length + 1 + word.length ≤ width then fillLines width (line ++ " " ++ word) words
    else line :: fillLines width word words

private def wrap (width : Nat) (text : String) : List String :=
  match (text.toList.splitOn ' ').map String.ofList with
  | [] => []
  | word :: words => fillLines width word words

/-- A term and what it means, on lines of its own if the term is long. -/
private def row (indent : Nat) (term meaning : String) : List String :=
  let lines := wrap (helpWidth - helpColumn) meaning
  let start := spaces indent ++ term
  if start.length + 2 ≤ helpColumn then
    match lines with
    | [] => [start]
    | first :: others =>
      (start ++ spaces (helpColumn - start.length) ++ first) ::
        others.map (spaces helpColumn ++ ·)
  else start :: lines.map (spaces helpColumn ++ ·)

private def commandRows : List String :=
  catalogue.flatMap fun spec => row 4 spec.command spec.description

private def optionRows : List String :=
  row 2 "-h, --help" "show this help message and exit" ++
    row 2 "--root ROOT" "Project root (default: $SPATIAL_ROOT or the current directory)" ++
    row 2 "--list" "List the available generators and exit"

def helpLines : List String :=
  ["usage: " ++ programName ++ " [-h] [--root ROOT] [--list] <command> ...", "",
    "Generate project source files from templates.", "", "positional arguments:", "  <command>"] ++
    commandRows ++ ["", "options:"] ++ optionRows ++
    ["", "Examples:", "  spatialgen make:query GetUsers --module=Identity --entity=User",
      "  spatialgen make:controller User --module=IdentityApi --dry-run"]

def helpText : String :=
  String.join (helpLines.map (· ++ "\n"))

end Scaffold.CommandLine
