import Scaffold.Template.Basic

/-!
# The template of an entity

The class of the rows of a table.
-/

set_option autoImplicit false

namespace Scaffold.Template

def entity : Template :=
  [ .rows ["<?php", "", "declare(strict_types=1);", ""], .text "namespace Core\\Domain\\",
    .value "schema", .text ";\n",
    .rows ["", "use Doctrine\\ORM\\Mapping as ORM;", "use DateTime;", "", "/**"], .text " * ",
    .value "name", .text " Entity\n", .rows [" *"], .text " * @package Core\\Domain\\",
    .value "schema", .text "\n", .rows [" */", "#[ORM\\Entity]"], .text "#[ORM\\Table(name: '",
    .value "table_name", .text "')]\n", .text "class ", .value "name", .text "\n",
    .rows [
      "\x7b",
      "    #[ORM\\Id]",
      "    #[ORM\\GeneratedValue]",
      "    #[ORM\\Column(type: 'integer')]",
      "    public ?int $id = null;",
      "",
      "    #[ORM\\Column(type: 'string', length: 255)]",
      "    public string $name;",
      "",
      "    #[ORM\\Column(type: 'datetime')]",
      "    public DateTime $created;",
      "",
      "    #[ORM\\Column(type: 'datetime', nullable: true)]",
      "    public ?DateTime $updated = null;",
      "",
      "    #[ORM\\Column(type: 'boolean')]",
      "    public bool $active = true;",
      "",
      "    // Add more properties as needed, for example:",
      "    //",
      "    // #[ORM\\Column(type: 'string', length: 255, unique: true)]",
      "    // public string $email;",
      "    //",
      "    // #[ORM\\Column(type: 'text', nullable: true)]",
      "    // public ?string $description = null;",
      "    //",
      "    // #[ORM\\ManyToOne(targetEntity: Category::class)]",
      "    // #[ORM\\JoinColumn(name: 'category_id', referencedColumnName: 'id')]",
      "    // public ?Category $category = null;",
      "\x7d"] ]

end Scaffold.Template
