import Scaffold.Template.Basic

/-!
# The template of a controller

The class whose methods answer the requests to one route.
-/

set_option autoImplicit false

namespace Scaffold.Template

def controller : Template :=
  [ .rows ["<?php", "", "declare(strict_types=1);", ""], .text "namespace Presentation\\",
    .value "module", .text "\\Controllers;\n", .rows [""], .imports "imports", .text "\n",
    .rows ["", "/**"], .text " * ", .value "name", .text "\n", .rows [" *"], .text " * Handles ",
    .value "short_name", .text " API endpoints.\n", .rows [" */", "#[ApiController]"],
    .text "#[Area('", .value "area_name", .text "')]\n", .rows ["#[Route('[area]/[controller]')]"],
    .text "class ", .value "name", .text " extends Controller\n", .rows ["\x7b"],
    .choice (.either (.holds "logging") (.holds "tracing"))
      [.rows ["    public function __construct("],
      .choice (.holds "logging")
        [.text "        protected ?LoggerInterface $logger = null",
        .choice (.holds "tracing") [.text ","] [], .text "\n"]
        [],
      .choice (.holds "tracing")
        [.rows ["        protected ?TracerInterface $tracer = null"]]
        [],
      .rows ["    ) \x7b", "        parent::__construct();", "    \x7d", ""]]
      [],
    .rows ["    /**"], .text "     * GET /", .value "area_name", .text "/", .value "route_name",
    .text "\n", .rows ["     */", "    #[HttpGet]"], .text "    public function get",
    .value "short_name", .text "s(): ResponseInterface\n", .rows ["    \x7b"],
    .text "        $query = new Get", .value "short_name", .text "s();\n",
    .rows ["        $query->params = $this->params;"],
    .text "        $query->appClaimParam = $this->appClaims['", .value "route_name",
    .text "'] ?? null;\n",
    .rows ["", "        return $this->mediator->process($query);", "    \x7d", "", "    /**"],
    .text "     * GET /", .value "area_name", .text "/", .value "route_name",
    .text "/\x7bid\x7d\n", .rows ["     */", "    #[HttpGet('\x7bid:int\x7d')]"],
    .text "    public function get", .value "short_name", .text "(int $id): ResponseInterface\n",
    .rows ["    \x7b"], .text "        $query = new Get", .value "short_name", .text "();\n",
    .rows ["        $query->id = $id;"],
    .text "        $query->appClaimParam = $this->appClaims['", .value "route_name",
    .text "'] ?? null;\n",
    .rows ["", "        return $this->mediator->process($query);", "    \x7d", "", "    /**"],
    .text "     * POST /", .value "area_name", .text "/", .value "route_name", .text "\n",
    .rows ["     */"],
    .choice (.holds "auth") [.rows ["    #[Authorize(AuthenticationService::class)]"]] [],
    .rows ["    #[HttpPost]"], .text "    public function create", .value "short_name",
    .text "(#[FromBody] string $content): ResponseInterface\n", .rows ["    \x7b"],
    .text "        $command = new Create", .value "short_name", .text "();\n",
    .rows ["        $command->data = json_decode($content, false, 512, JSON_THROW_ON_ERROR);"],
    .text "        $command->appClaimParam = $this->appClaims['", .value "route_name",
    .text "'] ?? null;\n",
    .rows ["", "        return $this->mediator->process($command);", "    \x7d", "", "    /**"],
    .text "     * PUT /", .value "area_name", .text "/", .value "route_name",
    .text "/\x7bid\x7d\n", .rows ["     */"],
    .choice (.holds "auth") [.rows ["    #[Authorize(AuthenticationService::class)]"]] [],
    .rows ["    #[HttpPut('\x7b?id:int\x7d')]"], .text "    public function update",
    .value "short_name", .text "(#[FromBody] string $content, int $id): ResponseInterface\n",
    .rows ["    \x7b"], .text "        $command = new Update", .value "short_name", .text "();\n",
    .rows [
      "        $command->id = $id;",
      "        $command->data = json_decode($content, false, 512, JSON_THROW_ON_ERROR);"],
    .text "        $command->appClaimParam = $this->appClaims['", .value "route_name",
    .text "'] ?? null;\n",
    .rows ["", "        return $this->mediator->process($command);", "    \x7d", "", "    /**"],
    .text "     * DELETE /", .value "area_name", .text "/", .value "route_name",
    .text "/\x7bid\x7d\n", .rows ["     */"],
    .choice (.holds "auth") [.rows ["    #[Authorize(AuthenticationService::class)]"]] [],
    .rows ["    #[HttpDelete('\x7bid:int\x7d')]"], .text "    public function delete",
    .value "short_name", .text "(int $id): ResponseInterface\n", .rows ["    \x7b"],
    .text "        $command = new Delete", .value "short_name", .text "();\n",
    .rows ["        $command->id = $id;"],
    .text "        $command->appClaimParam = $this->appClaims['", .value "route_name",
    .text "'] ?? null;\n",
    .rows ["", "        return $this->mediator->process($command);", "    \x7d", "\x7d"] ]

end Scaffold.Template
