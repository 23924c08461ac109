import Scaffold.Artifact.Preview
import Scaffold.Console.Layout
import Scaffold.Console.Markup
import Scaffold.Text.Phrase

/-!
# Reports

What a run tells its user: lines, successes, warnings, notes, structured errors and previews. Texts
are shown as they are; each report ends its last line.
-/

set_option autoImplicit false

namespace Scaffold.Console

private def printed (lines : List (List Char)) : String :=
  String.ofList (joinLines lines)

private def printWhole (marked : List Char) : String :=
  printed (wholeLines (render marked))

def line (text : String) : String :=
  printWhole (escape text.toList)

private def styledLine (style text : String) : String :=
  printWhole (styled style (escape text.toList))

def success (text : String) : String :=
  styledLine "bold green" text

def error (text : String) : String :=
  styledLine "bold red" text

def warning (text : String) : String :=
  styledLine "bold yellow" text

def note (text : String) : String :=
  styledLine "dim" text

private def wrapped (style text : String) : String :=
  printed (wrappedLines lineWidth (render (styled style (escape text.toList))))

/-- A success that is broken into lines between words. -/
def wrappedSuccess (text : String) : String :=
  wrapped "bold green" text

def wrappedError (text : String) : String :=
  wrapped "bold red" text

def wrappedWarning (text : String) : String :=
  wrapped "bold yellow" text

/-- An error with what to try instead and the correct usage, as far as they are known. -/
def structuredError (message : String) (suggestions : List String) (usage : Option String) :
    String :=
  let advice :=
    if suggestions.isEmpty then ""
    else
      wrapped "bold cyan" "Suggestions:" ++
        String.join (suggestions.map fun suggestion => line ("   • " ++ suggestion)) ++ line ""
  let correct :=
    match usage with
    | some usage => wrapped "bold cyan" "Correct usage:" ++ line ("   " ++ usage) ++ line ""
    | none => ""
  error ("Error: " ++ message) ++ line "" ++ advice ++ correct

private def previewTitle (preview : Preview) : List Char :=
  styled "bold" ("Would create ".toList ++ escape preview.kind.toList ++ [':']) ++
    ' ' :: escape preview.path.toList

def preview (preview : Preview) : String :=
  let shown := preview.lines.map fun (number, text) =>
    line ("   " ++ Text.padNumber 3 number ++ " | " ++ text)
  let more :=
    if preview.remaining = 0 then ""
    else line ("   ... (" ++ toString preview.remaining ++ " more lines)")
  printWhole (previewTitle preview) ++
    line ("   Lines: " ++ toString preview.lineCount ++ " | Size: " ++
      Text.byteCount preview.size) ++
    line "" ++ line "   Preview:" ++ String.join shown ++ more ++ line ""

end Scaffold.Console
