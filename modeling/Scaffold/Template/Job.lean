import Scaffold.Template.Basic

/-!
# The template of a job

The class of a task that a queue runs.
-/

set_option autoImplicit false

namespace Scaffold.Template

def job : Template :=
  [ .rows ["<?php", "", "declare(strict_types=1);", "", "namespace Core\\Jobs;", ""],
    .choice (.holds "tracing") [.rows ["use OpenTelemetry\\API\\Trace\\TracerInterface;"]] [],
    .choice (.holds "logging") [.rows ["use Psr\\Log\\LoggerInterface;"]] [],
    .rows ["use Spatial\\Queue\\Job;", "", "/**"], .text " * ", .value "name", .text "\n",
    .rows [" *"], .text " * Background job for ", .value "short_name", .text " processing.\n",
    .rows [" */"], .text "class ", .value "name", .text " extends Job\n", .rows ["\x7b"],
    .text "    public string $queue = '", .value "queue", .text "';\n", .rows [""],
    .text "    public int $tries = ", .value "tries", .text ";\n", .rows [""],
    .text "    public int $timeout = ", .value "timeout", .text ";\n",
    .rows [
      "",
      "    public int $delay = 0;",
      "",
      "    public function __construct(",
      "        public mixed $payload = null",
      "    ) \x7b\x7d",
      "",
      "    /**",
      "     * Execute the job.",
      "     */"],
    .text "    public function handle(",
    .choice (.holds "logging") [.text "LoggerInterface $logger"] [],
    .choice (.both (.holds "logging") (.holds "tracing")) [.text ", "] [],
    .choice (.holds "tracing") [.text "TracerInterface $tracer"] [], .text "): void\n",
    .rows ["    \x7b"],
    .choice (.holds "tracing")
      [.text "        $span = $tracer->spanBuilder('", .value "name",
      .text "::handle')->startSpan();\n", .rows ["        $scope = $span->activate();", ""]]
      [],
    .rows ["        try \x7b"],
    .choice (.holds "logging")
      [.text "            $logger->info('", .value "name",
      .text " started', ['payload' => $this->payload]);\n"]
      [],
    .rows ["", "            // Job logic goes here.", ""],
    .choice (.holds "logging")
      [.text "            $logger->info('", .value "name", .text " completed');\n"]
      [],
    .rows ["        \x7d catch (\\Exception $e) \x7b"],
    .choice (.holds "logging")
      [.text "            $logger->error('", .value "name",
      .text " failed', ['exception' => $e->getMessage()]);\n"]
      [],
    .choice (.holds "tracing") [.rows ["            $span->recordException($e);"]] [],
    .rows ["            throw $e;"],
    .choice (.holds "tracing")
      [.rows [
        "        \x7d finally \x7b",
        "            $scope->detach();",
        "            $span->end();"]]
      [],
    .rows [
      "        \x7d",
      "    \x7d",
      "",
      "    /**",
      "     * Handle job failure after all retries.",
      "     */",
      "    public function failed(\\Exception $exception): void",
      "    \x7b",
      "    \x7d",
      "\x7d"] ]

end Scaffold.Template
