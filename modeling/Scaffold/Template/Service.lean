import Scaffold.Template.Basic

/-!
# The template of a service

A class that does something for the rest of an application.
-/

set_option autoImplicit false

namespace Scaffold.Template

def service : Template :=
  [ .rows ["<?php", "", "declare(strict_types=1);", ""], .text "namespace Infrastructure\\",
    .value "folder", .text ";\n", .rows ["", "/**"], .text " * ", .value "name", .text "\n",
    .rows [" *"], .text " * Infrastructure service for ", .value "short_name",
    .text " operations.\n", .rows [" */"], .text "class ", .value "name", .text "\n",
    .rows [
      "\x7b",
      "    public function __construct(",
      "        // Inject dependencies here",
      "    ) \x7b\x7d",
      "",
      "    public function process(mixed $data): bool",
      "    \x7b",
      "        return true;",
      "    \x7d",
      "\x7d"] ]

end Scaffold.Template
