import Launchpad.Arguments
import Launchpad.Banner
import Launchpad.Role

/-!
# Values and beans

What a container or a bootstrap store holds under a name.
-/

namespace Launchpad

/-- A value held by a container or a bootstrap store. -/
inductive Value where
  /-- A number of the named numeric type. -/
  | number (type : String) (value : Int)
  | text (value : String)
  | arguments (value : Arguments)
  | banner (value : PrintedBanner)
  /-- A value of a type that only its owner looks into. -/
  | sealed (type : String)
  deriving DecidableEq, Repr, Inhabited

/-- A value of a bootstrap store with the identity of the instance that holds it. -/
structure BootstrapInstance where
  identity : Nat
  value : Value
  deriving DecidableEq, Repr, Inhabited

/-- A named bean held by a container. -/
inductive Bean where
  | value (value : Value)
  | runner (runner : Runner)
  | exitCodeMapper (participant : Participant)
  | exitCodeGenerator (code : Int)
  deriving DecidableEq, Repr

namespace Bean

/-- The inspection text of a bean names what it is for. -/
def inspected : Bean → String
  | value _ => "Bean::Value"
  | runner ⟨.application, _, _⟩ => "Bean::ApplicationRunner"
  | runner ⟨.commandLine, _, _⟩ => "Bean::CommandLineRunner"
  | exitCodeMapper _ => "Bean::ExitCodeMapper"
  | exitCodeGenerator _ => "Bean::ExitCodeGenerator"

/-- The runner that a bean is, if it is one. -/
def runner? : Bean → Option Runner
  | runner held => some held
  | _ => none

/-- The exit-code mapper that a bean is, if it is one. -/
def mapper? : Bean → Option Participant
  | exitCodeMapper participant => some participant
  | _ => none

/-- The exit code that a bean generates, if it is a generator. -/
def code? : Bean → Option Int
  | exitCodeGenerator code => some code
  | _ => none

end Bean

end Launchpad
