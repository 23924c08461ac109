import Scaffold.Template.Basic

/-!
# The template of a seeder

The class that fills a database with rows to start with.
-/

set_option autoImplicit false

namespace Scaffold.Template

def seeder : Template :=
  [ .rows [
      "<?php",
      "",
      "declare(strict_types=1);",
      "",
      "namespace Core\\Database\\Seeders;",
      "",
      "use Doctrine\\ORM\\EntityManagerInterface;",
      "use Spatial\\Database\\Seeder;",
      "",
      "/**"],
    .text " * ", .value "name", .text "\n",
    .rows [
      " *",
      " * Database seeder for test/development data.",
      " *",
      " * @package Core\\Database\\Seeders",
      " */"],
    .text "class ", .value "name", .text " extends Seeder\n", .rows ["\x7b"],
    .text "    protected string $connection = '", .value "connection", .text "';\n",
    .rows [
      "",
      "    /**",
      "     * Run the seeder.",
      "     */",
      "    public function run(EntityManagerInterface $em): void",
      "    \x7b",
      "        // Example:",
      "        // for ($i = 0; $i < 10; $i++) \x7b",
      "        //     $entity = new YourEntity();",
      "        //     $entity->setName('Test ' . $i);",
      "        //     $em->persist($entity);",
      "        // \x7d",
      "        //",
      "        // $em->flush();",
      ""],
    .text "        $this->info(\"Seeding ", .value "name", .text "...\");\n",
    .rows ["", "        // Seeding logic goes here.", ""], .text "        $this->success(\"",
    .value "name", .text " completed.\");\n", .rows ["    \x7d", "\x7d"] ]

end Scaffold.Template
