import Launchpad.Kind
import Launchpad.Phase

/-!
# Failures

A failure is a fault together with the faults that caused it, outermost first. Keeping the whole
chain is what lets an exit code buried under several wrappings still be found. `LaunchError` is the
failure of one step of a run; every other failure comes from a participant or from one of the
smaller services.
-/

namespace Launchpad

/-- What can go wrong in the bootstrap store. -/
inductive BootstrapFault where
  | notRegistered (type : String)
  | alreadyRegistered (type : String)
  | closed
  /-- The supplier of the type failed; its failure is the cause. -/
  | supplier (type : String)
  /-- A close listener failed; its failure is the cause. -/
  | closeListener
  deriving DecidableEq, Repr

/-- What can go wrong in a container. -/
inductive ContainerFault where
  | duplicateBean (name : String)
  | alreadyRefreshed
  | closed
  deriving DecidableEq, Repr

/-- What can go wrong when a file is read as text. -/
inductive FileFault where
  | notFound
  | notDirectory
  | isDirectory
  /-- The path, or a step of it, is longer than paths or steps can be. -/
  | nameTooLong
  /-- The path holds the character that ends paths. -/
  | zeroInName
  | notUtf8
  deriving DecidableEq, Repr

/-- The step of a run that failed. Where a participant's failure made the step fail, that failure is
the cause. -/
inductive LaunchFault where
  | plugin (capability name : String)
  | bootstrap (fault : BootstrapFault)
  | bootstrapInitializer
  | arguments (argument : String)
  | listener (phase : LifecyclePhase)
  | phaseOrder (previous : Option LifecyclePhase) (next : LifecyclePhase)
  | environmentPrefix
  | binding
  | banner
  | contextCreation (kind : ApplicationKind)
  | postProcess
  | initializerMismatch (initializer : String) (required actual : ApplicationKind)
  | initializer (name : String)
  | container (fault : ContainerFault)
  | noSources
  | noDefinitionRegistry
  | load
  | refresh
  | afterRefresh
  | runner (kind : String)
  | shutdown
  deriving DecidableEq, Repr

/-- One link of a failure's chain, without its cause. -/
inductive Fault where
  /-- A bare message. -/
  | text (message : String)
  /-- A participant's own kind of fault, with its inspection text. -/
  | custom (inspected message : String)
  /-- A fault that carries an exit code. -/
  | exitStatus (code : Int) (message : String)
  | file (fault : FileFault)
  /-- A fault handed on by an output operation. It shows the message of the inner fault and stands
  in its place in the chain, so only the causes of the inner fault remain visible to a search. -/
  | output (inner : Fault)
  /-- A property value that a typed setting does not accept. -/
  | decoding (message : String)
  | plugin (capability name : String)
  | bootstrap (fault : BootstrapFault)
  | container (fault : ContainerFault)
  /-- A registration after a shutdown has begun. -/
  | shutdownInProgress
  | argumentSyntax (argument : String)
  | launch (fault : LaunchFault)
  deriving DecidableEq, Repr

/-- A fault and its causes, outermost first. -/
structure Failure where
  fault : Fault
  causes : List Fault := []
  deriving DecidableEq, Repr

namespace Failure

/-- A failure without cause that only has a message. -/
def text (message : String) : Failure := ⟨.text message, []⟩

/-- The fault followed by its causes. -/
def chain (failure : Failure) : List Fault := failure.fault :: failure.causes

/-- A failure of a container. -/
def container (fault : ContainerFault) : Failure := ⟨.container fault, []⟩

/-- The failure of a registration after a shutdown has begun. -/
def shutdownInProgress : Failure := ⟨.shutdownInProgress, []⟩

/-- The failure as an output operation hands it on. -/
def handedOn (failure : Failure) : Failure := ⟨.output failure.fault, failure.causes⟩

end Failure

/-- The failure caused by another: its fault stands in front of the whole chain of the cause. -/
def Fault.dueTo (fault : Fault) (cause : Failure) : Failure := ⟨fault, cause.chain⟩

/-- The failure of one step of a run. -/
structure LaunchError where
  fault : LaunchFault
  causes : List Fault := []
  deriving DecidableEq, Repr

/-- The error of a run step that a participant's failure made fail. -/
def LaunchFault.dueTo (fault : LaunchFault) (cause : Failure) : LaunchError := ⟨fault, cause.chain⟩

/-- The error of a run step that failed by itself. -/
def LaunchFault.alone (fault : LaunchFault) : LaunchError := ⟨fault, []⟩

namespace LaunchError

/-- A step's error as a failure. -/
def toFailure (error : LaunchError) : Failure := ⟨.launch error.fault, error.causes⟩

end LaunchError

/-- The exit code that a fault itself carries. A fault handed on by an output operation carries
none, whatever its inner fault is. -/
def Fault.exitCode? : Fault → Option Int
  | .exitStatus code _ => some code
  | _ => none

/-- The exit code of the outermost fault of the chain that carries one. -/
def Failure.exitCode? (failure : Failure) : Option Int := failure.chain.findSome? Fault.exitCode?

end Launchpad
