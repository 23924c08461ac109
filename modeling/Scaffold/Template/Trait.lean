import Scaffold.Template.Basic

/-!
# The template of a trait

Methods that the classes of a domain share, by default those for its database.
-/

set_option autoImplicit false

namespace Scaffold.Template

def trait : Template :=
  [ .rows [
      "<?php",
      "",
      "declare(strict_types=1);",
      "",
      "namespace Core\\Application\\Traits;",
      ""],
    .choice (.is "type" "db")
      [.rows ["use Doctrine\\ORM\\EntityManagerInterface;"], .text "use Infrastructure\\Resource\\",
      .value "db_class", .text ";\n", .rows ["use Spatial\\Core\\App;", "", "/**"], .text " * ",
      .value "name", .text "\n", .rows [" *"], .text " * Provides entity manager access for the ",
      .value "domain", .text " domain.\n",
      .rows [
        " * Use in Commands and Queries that need database access.",
        " *",
        " * @package Core\\Application\\Traits",
        " */"],
      .text "trait ", .value "name", .text "\n", .rows ["\x7b"],
      .text "    protected ?EntityManagerInterface $", .value "em_var", .text " = null;\n",
      .rows ["", "    /**"], .text "     * Get the ", .value "domain", .text " entity manager.\n",
      .rows [
        "     * Call this at the start of your command/query logic.",
        "     */",
        "    protected function getEntityManager(): void",
        "    \x7b"],
      .text "        if ($this->", .value "em_var", .text " === null) \x7b\n",
      .text "            /** @var ", .value "db_class", .text " $db */\n",
      .text "            $db = App::diContainer()->get(", .value "db_class", .text "::class);\n",
      .text "            $this->", .value "em_var", .text " = $db->getEntityManager();\n",
      .rows [
        "        \x7d",
        "    \x7d",
        "",
        "    /**",
        "     * Release the entity manager.",
        "     * Call this in the finally block of your handler.",
        "     */",
        "    public function releaseEntityManager(): void",
        "    \x7b"],
      .text "        if ($this->", .value "em_var", .text " !== null) \x7b\n",
      .text "            $this->", .value "em_var", .text "->clear();\n",
      .text "            $this->", .value "em_var", .text " = null;\n",
      .rows [
        "        \x7d",
        "    \x7d",
        "",
        "    /**",
        "     * Persist and flush an entity.",
        "     */",
        "    protected function save(object $entity): void",
        "    \x7b"],
      .text "        $this->", .value "em_var", .text "->persist($entity);\n",
      .text "        $this->", .value "em_var", .text "->flush();\n",
      .rows [
        "    \x7d",
        "",
        "    /**",
        "     * Remove and flush an entity.",
        "     */",
        "    protected function remove(object $entity): void",
        "    \x7b"],
      .text "        $this->", .value "em_var", .text "->remove($entity);\n",
      .text "        $this->", .value "em_var", .text "->flush();\n",
      .rows [
        "    \x7d",
        "",
        "    /**",
        "     * Find entity by ID.",
        "     */",
        "    protected function findById(string $entityClass, int $id): ?object",
        "    \x7b"],
      .text "        return $this->", .value "em_var", .text "->find($entityClass, $id);\n",
      .rows [
        "    \x7d",
        "",
        "    /**",
        "     * Get repository for entity class.",
        "     */",
        "    protected function getRepository(string $entityClass)",
        "    \x7b"],
      .text "        return $this->", .value "em_var", .text "->getRepository($entityClass);\n",
      .rows ["    \x7d", "\x7d"]]
      [.rows ["/**"], .text " * ", .value "name", .text "\n", .rows [" *"],
      .text " * Shared functionality for the ", .value "domain", .text " domain.\n",
      .rows [" *", " * @package Core\\Application\\Traits", " */"], .text "trait ", .value "name",
      .text "\n",
      .rows [
        "\x7b",
        "    /**",
        "     * Example helper method.",
        "     * Add your domain-specific methods here.",
        "     */"],
      .text "    protected function example", .value "domain", .text "Method(): void\n",
      .rows ["    \x7b", "        // Domain-specific logic goes here.", "    \x7d", "\x7d"]] ]

end Scaffold.Template
