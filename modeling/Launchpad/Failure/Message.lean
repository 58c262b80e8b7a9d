import Launchpad.Failure.Basic
import Launchpad.Text.Quoted
import Launchpad.Text.Separated

/-!
# The words of failures

Every fault has a message for people and an inspection text for measurements and logs. The message
of a run step that hands on the fault of a smaller service is the message of that fault. The
inspection text of a fault with a cause contains the inspection text of the cause.
-/

namespace Launchpad

open Text

/-- The message of a factory that could not build its participant. -/
def pluginMessage (capability name : String) : String :=
  "Cannot instantiate " ++ capability ++ " : " ++ name

/-- The message of a registration after a shutdown has begun. -/
def shutdownMessage : String := "Shutdown in progress"

/-- The message of an argument that is no option and looks like one. -/
def argumentMessage (argument : String) : String := "Invalid argument syntax: " ++ argument

/-- The inspection text of a factory failure, given that of its cause. -/
def inspectedPlugin (capability name cause : String) : String :=
  inspectedFields "Instantiation"
    [("capability", quoted capability), ("name", quoted name), ("source", cause)]

/-- The inspection text of a syntax fault in an argument. -/
def inspectedArgument (argument : String) : String :=
  inspectedTuple "InvalidSyntax" (quoted argument)

namespace BootstrapFault

/-- The message of a bootstrap fault. -/
def message : BootstrapFault → String
  | notRegistered type => "Type " ++ type ++ " has not been registered"
  | alreadyRegistered type => "Type " ++ type ++ " is already registered"
  | closed => "Bootstrap context is closed"
  | supplier type => "Failed to create instance of " ++ type
  | closeListener => "Bootstrap close listener failed"

/-- The inspection text of a bootstrap fault, given that of its cause. -/
def inspected (cause : String) : BootstrapFault → String
  | notRegistered type => inspectedTuple "NotRegistered" (quoted type)
  | alreadyRegistered type => inspectedTuple "AlreadyRegistered" (quoted type)
  | closed => "Closed"
  | supplier type => inspectedFields "Supplier" [("type_name", quoted type), ("source", cause)]
  | closeListener => inspectedTuple "CloseListener" cause

end BootstrapFault

namespace ContainerFault

/-- The message of a container fault. -/
def message : ContainerFault → String
  | duplicateBean name => "Bean '" ++ name ++ "' is already defined and overriding is disabled"
  | alreadyRefreshed => "Context has already been refreshed"
  | closed => "Context is closed"

/-- The inspection text of a container fault. -/
def inspected : ContainerFault → String
  | duplicateBean name => inspectedTuple "DuplicateBean" (quoted name)
  | alreadyRefreshed => "AlreadyRefreshed"
  | closed => "Closed"

end ContainerFault

namespace FileFault

/-- The message of a file fault. -/
def message : FileFault → String
  | notFound => "No such file or directory (os error 2)"
  | notDirectory => "Not a directory (os error 20)"
  | isDirectory => "Is a directory (os error 21)"
  | nameTooLong => "File name too long (os error 36)"
  | zeroInName => "file name contained an unexpected NUL byte"
  | notUtf8 => "stream did not contain valid UTF-8"

/-- The inspection text of a file fault. -/
def inspected : FileFault → String
  | notFound => inspectedFields "Os"
      [("code", "2"), ("kind", "NotFound"), ("message", quoted "No such file or directory")]
  | notDirectory => inspectedFields "Os"
      [("code", "20"), ("kind", "NotADirectory"), ("message", quoted "Not a directory")]
  | isDirectory => inspectedFields "Os"
      [("code", "21"), ("kind", "IsADirectory"), ("message", quoted "Is a directory")]
  | nameTooLong => inspectedFields "Os"
      [("code", "36"), ("kind", "InvalidFilename"), ("message", quoted "File name too long")]
  | zeroInName => inspectedFields "Error"
      [("kind", "InvalidInput"),
        ("message", quoted "file name contained an unexpected NUL byte")]
  | notUtf8 => inspectedFields "Error"
      [("kind", "InvalidData"), ("message", quoted "stream did not contain valid UTF-8")]

end FileFault

namespace LaunchFault

/-- The message of a failed run step. -/
def message : LaunchFault → String
  | plugin capability name => pluginMessage capability name
  | bootstrap fault => fault.message
  | bootstrapInitializer => "Bootstrap registry initializer failed"
  | arguments argument => argumentMessage argument
  | listener phase => "Run listener failed during " ++ phase.name
  | phaseOrder previous next =>
    "Lifecycle phase " ++ next.name ++ " cannot follow " ++
      quotedOption (previous.map LifecyclePhase.inspected)
  | environmentPrefix => "Environment prefix cannot be set via properties"
  | binding => "Cannot bind to application"
  | banner => "Failed to print banner"
  | contextCreation kind => "Unable to create " ++ kind.name ++ " application context"
  | postProcess => "Context post-processing failed"
  | initializerMismatch name required actual =>
    "Unable to call initializer " ++ name ++ ": requires a " ++ required.name ++
      " context, found " ++ actual.name
  | initializer name => "Initializer " ++ name ++ " failed"
  | container fault => fault.message
  | noSources => "Sources must not be empty"
  | noDefinitionRegistry => "Could not locate definition registry"
  | load => "Failed to load sources"
  | refresh => "Context refresh failed"
  | afterRefresh => "After-refresh hook failed"
  | runner kind => "Failed to execute " ++ kind
  | shutdown => shutdownMessage

/-- The inspection text of a failed run step, given that of its cause. -/
def inspected (cause : String) : LaunchFault → String
  | plugin capability name => inspectedTuple "Plugin" (inspectedPlugin capability name cause)
  | bootstrap fault => inspectedTuple "Bootstrap" (fault.inspected cause)
  | bootstrapInitializer => inspectedTuple "BootstrapInitializer" cause
  | arguments argument => inspectedTuple "Arguments" (inspectedArgument argument)
  | listener phase => inspectedFields "Listener" [("phase", phase.inspected), ("source", cause)]
  | phaseOrder previous next => inspectedFields "PhaseOrder"
      [("from", quotedOption (previous.map LifecyclePhase.inspected)), ("to", next.inspected)]
  | environmentPrefix => "EnvironmentPrefix"
  | binding => inspectedTuple "Binding" cause
  | banner => inspectedTuple "Banner" cause
  | contextCreation kind =>
    inspectedFields "ContextCreation" [("kind", kind.inspected), ("source", cause)]
  | postProcess => inspectedTuple "PostProcess" cause
  | initializerMismatch name required actual => inspectedFields "InitializerMismatch"
      [("initializer", quoted name), ("required", required.inspected),
        ("actual", actual.inspected)]
  | initializer name =>
    inspectedFields "Initializer" [("initializer", quoted name), ("source", cause)]
  | container fault => inspectedTuple "Context" fault.inspected
  | noSources => "NoSources"
  | noDefinitionRegistry => "NoDefinitionRegistry"
  | load => inspectedTuple "Load" cause
  | refresh => inspectedTuple "Refresh" cause
  | afterRefresh => inspectedTuple "AfterRefresh" cause
  | runner kind => inspectedFields "Runner" [("runner", quoted kind), ("source", cause)]
  | shutdown => inspectedTuple "Shutdown" "InProgress"

end LaunchFault

namespace Fault

/-- The message of a fault. -/
def message : Fault → String
  | text message => message
  | custom _ message => message
  | exitStatus code message => message ++ " (exit code " ++ toString code ++ ")"
  | file fault => fault.message
  | output inner => inner.message
  | decoding message => message
  | plugin capability name => pluginMessage capability name
  | bootstrap fault => fault.message
  | container fault => fault.message
  | shutdownInProgress => shutdownMessage
  | argumentSyntax argument => argumentMessage argument
  | launch fault => fault.message

/-- The inspection text of a fault, given that of its cause if it has one. -/
def inspected (cause : Option String) : Fault → String
  | text message => quoted message
  | custom shown _ => shown
  | exitStatus code message => inspectedFields "ExitStatusError"
      [("code", toString code), ("message", quoted message), ("source", quotedOption cause)]
  | file fault => fault.inspected
  | output inner =>
    inspectedFields "Custom" [("kind", "Other"), ("error", inner.inspected cause)]
  | decoding message =>
    "Error(" ++ quoted message ++ ", line: 0, column: 0)"
  | plugin capability name => inspectedPlugin capability name (cause.getD "")
  | bootstrap fault => fault.inspected (cause.getD "")
  | container fault => fault.inspected
  | shutdownInProgress => "InProgress"
  | argumentSyntax argument => inspectedArgument argument
  | launch fault => fault.inspected (cause.getD "")

end Fault

/-- The inspection text of a chain of faults. -/
def inspectedChain (chain : List Fault) : Option String :=
  chain.foldr (fun fault cause => some (fault.inspected cause)) none

namespace Failure

/-- The message of a failure is that of its outermost fault. -/
def message (failure : Failure) : String := failure.fault.message

/-- The messages of the causes, outermost first. -/
def causeMessages (failure : Failure) : List String := failure.causes.map Fault.message

/-- The inspection text of a failure. -/
def inspected (failure : Failure) : String :=
  failure.fault.inspected (inspectedChain failure.causes)

/-- Whether the text occurs in the message of the failure or of one of its causes. -/
def mentions (failure : Failure) (part : String) : Bool :=
  failure.chain.any fun fault => Text.contains fault.message part

end Failure

namespace LaunchError

/-- The message of a step's error. -/
def message (error : LaunchError) : String := error.fault.message

/-- The messages of the causes, outermost first. -/
def causeMessages (error : LaunchError) : List String := error.causes.map Fault.message

end LaunchError

end Launchpad
