import Scaffold.Template.Basic

/-!
# The template of a listener

The class that is told when an event happens.
-/

set_option autoImplicit false

namespace Scaffold.Template

def listener : Template :=
  [ .rows [
      "<?php",
      "",
      "declare(strict_types=1);",
      "",
      "namespace Core\\Application\\Listeners;",
      ""],
    .imports "imports", .text "\n", .rows ["", "/**"], .text " * ", .value "name", .text "\n",
    .rows [" *"], .text " * Handles ", .value "event", .text " events.\n", .rows [" */"],
    .text "#[Listener(", .value "event", .text "::class)]\n", .text "class ", .value "name",
    .text "\n", .rows ["\x7b"],
    .choice (.either (.holds "logging") (.holds "tracing"))
      [.rows ["    public function __construct("],
      .choice (.holds "logging")
        [.text "        protected LoggerInterface $logger",
        .choice (.holds "tracing") [.text ","] [], .text "\n"]
        [],
      .choice (.holds "tracing") [.rows ["        protected TracerInterface $tracer"]] [],
      .rows ["    ) \x7b\x7d", ""]]
      [],
    .text "    public function handle(", .value "event", .text " $event): void\n",
    .rows ["    \x7b"],
    .choice (.holds "tracing")
      [.text "        $span = $this->tracer->spanBuilder('", .value "name",
      .text "::handle')->startSpan();\n", .rows ["        $scope = $span->activate();", ""]]
      [],
    .choice (.either (.holds "logging") (.holds "tracing"))
      [.rows ["        try \x7b"],
      .choice (.holds "logging")
        [.text "            $this->logger->info('", .value "short_name", .text " started', [\n",
        .rows [
          "                'event' => $event::eventName(),",
          "                'correlationId' => $event->correlationId",
          "            ]);"]]
        [],
      .rows ["", "            // Listener logic goes here.", ""],
      .choice (.holds "logging")
        [.text "            $this->logger->info('", .value "short_name", .text " completed');\n"]
        [],
      .rows ["        \x7d catch (\\Exception $e) \x7b"],
      .choice (.holds "logging")
        [.text "            $this->logger->error('", .value "short_name",
        .text " failed', ['exception' => $e->getMessage()]);\n"]
        [],
      .choice (.holds "tracing") [.rows ["            $span->recordException($e);"]] [],
      .rows ["            throw $e;"],
      .choice (.holds "tracing")
        [.rows [
          "        \x7d finally \x7b",
          "            $scope->detach();",
          "            $span->end();"]]
        [],
      .rows ["        \x7d"]]
      [.rows ["        // Listener logic goes here."]],
    .rows ["    \x7d", "\x7d"] ]

end Scaffold.Template
