import Scaffold.Template.Basic

/-!
# Filters

What a template can do to a value on its way into a text: join its words in one of three cases, or
make import lines of its items. In a text of markup the characters that mean something there are
written by their names.
-/

set_option autoImplicit false

namespace Scaffold.Template

inductive Filter where
  | pascalCase
  | snakeCase
  | kebabCase
  | imports
  deriving DecidableEq, Repr

inductive FilterFault where
  | render (fault : RenderFault)
  | untrimmable (value : Value)
  | unsearchable (value : Value)
  deriving Repr

def FilterFault.message : FilterFault → String
  | .render fault => fault.message
  | .untrimmable value => "'" ++ value.kindName ++ "' object has no attribute 'strip'"
  | .unsearchable value => "expected string or bytes-like object, got '" ++ value.kindName ++ "'"

def Filter.apply (filter : Filter) (value : Value) : Except FilterFault String :=
  match filter, value with
  | .pascalCase, .text content => .ok (Text.pascalCase content)
  | .snakeCase, .text content => .ok (Text.snakeCase content)
  | .kebabCase, .text content => .ok (Text.kebabCase content)
  | .imports, value => (importLines value).mapError .render
  | .pascalCase, value => .error (.untrimmable value)
  | .snakeCase, value | .kebabCase, value => .error (.unsearchable value)

def escapeCharacter : Char → List Char
  | '&' => "&amp;".toList
  | '<' => "&lt;".toList
  | '>' => "&gt;".toList
  | '\'' => "&#39;".toList
  | '"' => "&#34;".toList
  | character => [character]

def escapeMarkup (text : String) : String :=
  String.ofList (text.toList.flatMap escapeCharacter)

end Scaffold.Template
