/-!
# Suffixes of names

A suffix is added to a name that lacks it and taken from a name that is more than it.
-/

set_option autoImplicit false

namespace Scaffold.Text

def hasSuffix (name suffix : String) : Bool :=
  suffix.toList.isSuffixOf name.toList

def withSuffix (name suffix : String) : String :=
  if hasSuffix name suffix then name else name ++ suffix

def stripSuffix (name suffix : String) : String :=
  if hasSuffix name suffix && name ≠ suffix then
    String.ofList (name.toList.take (name.toList.length - suffix.toList.length))
  else name

end Scaffold.Text
