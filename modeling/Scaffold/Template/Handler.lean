import Scaffold.Template.Basic

/-!
# The template of a handler

The class that answers a command or a query, logged and traced if wanted.
-/

set_option autoImplicit false

namespace Scaffold.Template

def handler : Template :=
  [ .rows ["<?php", "", "declare(strict_types=1);", ""], .text "namespace ", .value "namespace",
    .text ";\n", .rows [""], .imports "handler_imports", .text "\n", .rows ["", "/**"],
    .text " * ", .value "name", .text " Handler\n", .rows [" *"], .text " * Handles the ",
    .value "name", .text " ", .value "request_kind", .text ".\n", .rows [" */"], .text "class ",
    .value "name", .text "Handler extends RequestHandler\n", .rows ["\x7b"],
    .choice (.either (.holds "logging") (.holds "tracing"))
      [.rows ["    public function __construct("],
      .choice (.holds "logging")
        [.text "        protected LoggerInterface $logger",
        .choice (.holds "tracing") [.text ","] [], .text "\n"]
        [],
      .choice (.holds "tracing") [.rows ["        protected TracerInterface $tracer"]] [],
      .rows ["    ) \x7b", "        parent::__construct();", "    \x7d"]]
      [.rows [
        "    public function __construct()",
        "    \x7b",
        "        parent::__construct();",
        "    \x7d"]],
    .rows ["", "    /**"], .text "     * Handle the ", .value "request_kind", .text " request.\n",
    .rows ["     *"], .text "     * @param ", .value "name",
    .text "|ServerRequestInterface $request\n",
    .rows ["     * @return ResponseInterface", "     */"], .text "    public function handle(",
    .value "name", .text "|ServerRequestInterface $request): ResponseInterface\n",
    .rows ["    \x7b"],
    .choice (.holds "tracing")
      [.text "        $span = $this->tracer->spanBuilder('", .value "name",
      .text "Handler::handle')->startSpan();\n", .rows ["        $scope = $span->activate();"]]
      [],
    .choice (.holds "logging")
      [.text "        $this->logger->info('Starting ", .value "name", .text ".');\n"]
      [],
    .rows ["", "        $res = new ServerResponse();", "", "        try \x7b"],
    .choice (.is "request_kind" "query")
      [.rows [
        "            $result = $request->fetchData();",
        "",
        "            $res->data = $result['items'] ?? $result;",
        "            $res->message = 'Data fetched successfully';",
        "",
        "            if (isset($result['pagination'])) \x7b",
        "                $res->paginate(",
        "                    currentPage: $result['pagination']['currentPage'],",
        "                    pageSize: $result['pagination']['pageSize'],",
        "                    totalPages: $result['pagination']['totalPages'],",
        "                    totalItems: $result['pagination']['totalItems']",
        "                );",
        "            \x7d"]]
      [.rows [
        "            $result = $request->execute();",
        "",
        "            if (!($result['success'] ?? false)) \x7b",
        "                throw new Exception($result['message'] ?? 'Command execution failed');",
        "            \x7d",
        "",
        "            $res->data = $result['data'] ?? null;"],
      .text "            $res->message = $result['message'] ?? '", .value "name",
      .text " completed successfully';\n"],
    .choice (.holds "logging")
      [.rows [""], .text "            $this->logger->info('", .value "name",
      .text " completed successfully.');\n"]
      [],
    .choice (.holds "tracing")
      [.rows ["            $span->setStatus(StatusCode::STATUS_OK);"]]
      [],
    .rows ["        \x7d catch (JsonException $e) \x7b"],
    .choice (.holds "logging")
      [.text "            $this->logger->error('JSON Exception in ", .value "name",
      .text "', ['exception' => $e]);\n"]
      [],
    .choice (.holds "tracing")
      [.rows [
        "            $span->recordException($e)->setStatus(StatusCode::STATUS_ERROR, 'JsonException');"]]
      [],
    .rows [
      "            $res->logError(",
      "                code: '500',",
      "                detail: ['reason' => 'JSON encoding error', 'exception' => $e->getMessage()]",
      "            );",
      "        \x7d catch (Exception $e) \x7b"],
    .choice (.holds "logging")
      [.text "            $this->logger->error('Exception in ", .value "name",
      .text "', ['exception' => $e]);\n"]
      [],
    .choice (.holds "tracing")
      [.rows [
        "            $span->recordException($e)->setStatus(StatusCode::STATUS_ERROR, 'Exception');"]]
      [],
    .rows [
      "            $res->logError(",
      "                code: '500',",
      "                detail: ['reason' => $e->getMessage()]",
      "            );"],
    .choice (.either (.holds "releaseEntity") (.holds "tracing"))
      [.rows ["        \x7d finally \x7b"],
      .choice (.holds "releaseEntity")
        [.rows ["            $request->releaseEntityManager();"]]
        [],
      .choice (.holds "tracing")
        [.rows ["            $scope->detach();", "            $span->end();"]]
        []]
      [],
    .rows [
      "        \x7d",
      "",
      "        $response = new Response();",
      "        $response = $response->withStatus($res->getResponseStatus());",
      "        $response->getBody()->write((string)$res);",
      "",
      "        return $response;",
      "    \x7d",
      "\x7d"] ]

end Scaffold.Template
