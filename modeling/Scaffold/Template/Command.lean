import Scaffold.Template.Basic

/-!
# The template of a command

The class of a request that changes something.
-/

set_option autoImplicit false

namespace Scaffold.Template

def command : Template :=
  [ .rows ["<?php", "", "declare(strict_types=1);", ""], .text "namespace ", .value "namespace",
    .text ";\n", .rows ["", "use Spatial\\Psr7\\Request;", "", "/**"], .text " * ", .value "name",
    .text " Command\n",
    .rows [
      " *",
      " * Request to be passed to its Handler.",
      " * Handler can use this class's properties and methods.",
      " */"],
    .text "class ", .value "name", .text " extends Request\n",
    .rows [
      "\x7b",
      "    public object $data;",
      "    public ?object $appClaimParam = null;",
      "",
      "    /**",
      "     * Execute the command logic.",
      "     * Called by the handler.",
      "     *",
      "     * @return mixed",
      "     */",
      "    public function execute(): mixed",
      "    \x7b",
      "        // Access request data via $this->data",
      "        // Access claims via $this->getAttribute('claims')",
      "",
      "        return [",
      "            'success' => true,"],
    .text "            'message' => '", .value "name", .text " executed successfully',\n",
    .rows ["            'data' => null", "        ];", "    \x7d", "\x7d"] ]

end Scaffold.Template
