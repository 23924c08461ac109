import Scaffold.Template.Basic

/-!
# The template of an event

The class of something that has happened.
-/

set_option autoImplicit false

namespace Scaffold.Template

def event : Template :=
  [ .rows ["<?php", "", "declare(strict_types=1);", ""],
    .text "namespace Core\\Application\\Events\\", .value "module", .text ";\n",
    .rows ["", "use DateTimeImmutable;", "", "/**"], .text " * ", .value "name", .text "\n",
    .rows [" *"], .text " * Domain event triggered when ", .value "short_name", .text " occurs.\n",
    .rows [" */"], .text "class ", .value "name", .text "\n",
    .rows [
      "\x7b",
      "    public readonly DateTimeImmutable $occurredAt;",
      "",
      "    public function __construct(",
      "        public readonly mixed $payload = null,",
      "        public readonly ?string $correlationId = null",
      "    ) \x7b",
      "        $this->occurredAt = new DateTimeImmutable();",
      "    \x7d",
      "",
      "    public static function eventName(): string",
      "    \x7b"],
    .text "        return '", .value "module", .text ".", .value "short_name", .text "';\n",
    .rows [
      "    \x7d",
      "",
      "    public function toArray(): array",
      "    \x7b",
      "        return [",
      "            'event' => self::eventName(),",
      "            'payload' => $this->payload,",
      "            'correlationId' => $this->correlationId,",
      "            'occurredAt' => $this->occurredAt->format('c')",
      "        ];",
      "    \x7d",
      "\x7d"] ]

end Scaffold.Template
