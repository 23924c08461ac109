import Scaffold.Template.Basic

/-!
# The template of a query

The class of a request that fetches something.
-/

set_option autoImplicit false

namespace Scaffold.Template

def query : Template :=
  [ .rows ["<?php", "", "declare(strict_types=1);", ""], .text "namespace ", .value "namespace",
    .text ";\n",
    .rows ["", "use Spatial\\Psr7\\Request;", "use Spatial\\Router\\ActivatedRoute;", "", "/**"],
    .text " * ", .value "name", .text " Query\n",
    .rows [" *", " * Request to fetch data, passed to its Handler.", " */"], .text "class ",
    .value "name", .text " extends Request\n",
    .rows [
      "\x7b",
      "    public ?ActivatedRoute $params = null;",
      "    public ?object $appClaimParam = null;",
      "    public ?int $id = null;",
      "",
      "    /**",
      "     * Execute the query logic.",
      "     * Called by the handler.",
      "     *",
      "     * @return mixed",
      "     */",
      "    public function fetchData(): mixed",
      "    \x7b",
      "        $page = $this->params?->page ?? 1;",
      "        $pageSize = $this->params?->pageSize ?? 10;",
      "",
      "        return [",
      "            'items' => [],",
      "            'pagination' => [",
      "                'currentPage' => $page,",
      "                'pageSize' => $pageSize,",
      "                'totalPages' => 0,",
      "                'totalItems' => 0",
      "            ]",
      "        ];",
      "    \x7d",
      "\x7d"] ]

end Scaffold.Template
