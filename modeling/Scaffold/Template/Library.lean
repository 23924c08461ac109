import Scaffold.Template.Command
import Scaffold.Template.Controller
import Scaffold.Template.Entity
import Scaffold.Template.Event
import Scaffold.Template.Handler
import Scaffold.Template.Job
import Scaffold.Template.Listener
import Scaffold.Template.Middleware
import Scaffold.Template.Query
import Scaffold.Template.Seeder
import Scaffold.Template.Service
import Scaffold.Template.Trait

/-!
# The templates at hand

The templates by the names of their files, in the order of the names.
-/

set_option autoImplicit false

namespace Scaffold.Template

def all : Keyed String Template :=
  [("command.php.j2", command),
    ("controller.php.j2", controller),
    ("entity.php.j2", entity),
    ("event.php.j2", event),
    ("handler.php.j2", handler),
    ("job.php.j2", job),
    ("listener.php.j2", listener),
    ("middleware.php.j2", middleware),
    ("query.php.j2", query),
    ("seeder.php.j2", seeder),
    ("service.php.j2", service),
    ("trait.php.j2", trait)]

def names : List String :=
  all.map Prod.fst

def named? (name : String) : Option Template :=
  Keyed.get? name all

end Scaffold.Template
