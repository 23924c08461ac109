import Scaffold.Template.Basic

/-!
# The template of middleware

A class that requests pass on their way to a handler.
-/

set_option autoImplicit false

namespace Scaffold.Template

def middleware : Template :=
  [ .rows ["<?php", "", "declare(strict_types=1);", ""], .text "namespace Infrastructure\\",
    .value "folder", .text ";\n",
    .rows [
      "",
      "use GuzzleHttp\\Psr7\\Response;",
      "use Psr\\Http\\Message\\ResponseInterface;",
      "use Psr\\Http\\Message\\ServerRequestInterface;",
      "use Psr\\Http\\Server\\MiddlewareInterface;",
      "use Psr\\Http\\Server\\RequestHandlerInterface;",
      "",
      "/**"],
    .text " * ", .value "name", .text "\n", .rows [" *"], .text " * PSR-15 middleware for ",
    .value "short_name", .text " handling.\n", .rows [" */"], .text "class ", .value "name",
    .text " implements MiddlewareInterface\n",
    .rows [
      "\x7b",
      "    public function __construct(",
      "        // Inject dependencies here",
      "    ) \x7b\x7d",
      "",
      "    public function process(",
      "        ServerRequestInterface $request,",
      "        RequestHandlerInterface $handler",
      "    ): ResponseInterface \x7b",
      "        return $handler->handle($request);",
      "    \x7d",
      "",
      "    protected function error(string $message, int $status = 400): ResponseInterface",
      "    \x7b",
      "        $response = new Response($status);",
      "        $response->getBody()->write(json_encode([",
      "            'error' => true,",
      "            'message' => $message,",
      "        ]));",
      "",
      "        return $response->withHeader('Content-Type', 'application/json');",
      "    \x7d",
      "\x7d"] ]

end Scaffold.Template
