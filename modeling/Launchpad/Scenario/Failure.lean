import Launchpad.Scenario.Shown

/-!
# Descriptions of failures

A failure is described by its message alone, or by its chain of faults, outermost first. A fault
that has no causes by its nature ends the chain, whatever follows in the description.
-/

namespace Launchpad.Scenario

/-- The kind of application in a field, if the field is there. -/
def kindAt? (description : Datum) (key : String) : Option ApplicationKind :=
  (description.textAt? key).map fun name => (ApplicationKind.parse name).toOption.getD .standalone

/-- The kind of application in a field. -/
def kindAt (description : Datum) (key : String) : ApplicationKind :=
  (kindAt? description key).getD .standalone

/-- The phase in a field, if the field is there. -/
def phaseAt? (description : Datum) (key : String) : Option LifecyclePhase :=
  (description.textAt? key).bind LifecyclePhase.ofName?

/-- The phase in a field. -/
def phaseAt (description : Datum) (key : String) : LifecyclePhase :=
  (phaseAt? description key).getD .starting

/-- The type that described faults of the bootstrap store are about. -/
def faultType : String := "u8"

/-- The fault of a run step, and whether it is due to a participant's failure. -/
def launchFault (description : Datum) : LaunchFault × Bool :=
  let name := description.textAt "name"
  let kind := kindAt description "kind"
  match description.textAt "launch" with
  | "Plugin" => (.plugin Catalog.runListenerCapability name, true)
  | "Supplier" => (.bootstrap (.supplier faultType), true)
  | "NotRegistered" => (.bootstrap (.notRegistered faultType), false)
  | "AlreadyRegistered" => (.bootstrap (.alreadyRegistered faultType), false)
  | "CloseListener" => (.bootstrap .closeListener, true)
  | "BootstrapClosed" => (.bootstrap .closed, false)
  | "BootstrapInitializer" => (.bootstrapInitializer, true)
  | "Arguments" => (.arguments name, false)
  | "Listener" => (.listener (phaseAt description "phase"), true)
  | "PhaseOrder" =>
    (.phaseOrder (phaseAt? description "from") (phaseAt description "to"), false)
  | "EnvironmentPrefix" => (.environmentPrefix, false)
  | "Binding" => (.binding, true)
  | "Banner" => (.banner, true)
  | "ContextCreation" => (.contextCreation kind, true)
  | "PostProcess" => (.postProcess, true)
  | "InitializerMismatch" =>
    (.initializerMismatch name kind (kindAt description "actual"), false)
  | "Initializer" => (.initializer name, true)
  | "DuplicateBean" => (.container (.duplicateBean name), false)
  | "AlreadyRefreshed" => (.container .alreadyRefreshed, false)
  | "ContextClosed" => (.container .closed, false)
  | "NoSources" => (.noSources, false)
  | "NoDefinitionRegistry" => (.noDefinitionRegistry, false)
  | "Load" => (.load, true)
  | "Refresh" => (.refresh, true)
  | "AfterRefresh" => (.afterRefresh, true)
  | "CommandLineRunner" => (.runner RunnerKind.commandLine.name, true)
  | "Shutdown" => (.shutdown, false)
  | _ => (.runner RunnerKind.application.name, true)

/-- The fault of a run step as the failure that it is with the given cause. The step that prints the
banner only ever sees the failures of an output. -/
def launchFailure (description : Datum) (cause : Failure) : Failure :=
  match launchFault description with
  | (.banner, _) => (LaunchFault.banner.dueTo cause.handedOn).toFailure
  | (fault, true) => (fault.dueTo cause).toFailure
  | (fault, false) => fault.alone.toFailure

/-- A fault with its cause, if there is one. -/
def faultWith (cause : Option Failure) (fault : Fault) : Failure :=
  cause.elim ⟨fault, []⟩ fault.dueTo

/-- A participant's own fault without an exit code that the library could see. -/
def plainFault (message : String) : Fault :=
  .custom (Text.inspectedTuple "Plain" (Text.quoted message)) message

/-- A participant's own fault that shows a code. -/
def codedFault (code : Int) (message : String) : Fault :=
  .custom (Text.inspectedTuple "Coded" (toString code ++ ", " ++ Text.quoted message)) message

/-- The failure that the items of a chain describe, outermost first. -/
def failureOfChain : List Datum → Option Failure
  | [] => none
  | .text message :: _ => some (.text message)
  | item :: rest =>
    let cause := failureOfChain rest
    let codeAndMessage (key : String) : Option (Int × String) :=
      match item.itemsAt key with
      | [code, message] => some (code.asCode, message.asText)
      | _ => none
    match item.textAt? "plain", codeAndMessage "status", codeAndMessage "wrap",
      codeAndMessage "coded" with
    | some message, _, _, _ => some (faultWith cause (plainFault message))
    | _, some (code, message), _, _ => some ⟨.exitStatus code message, []⟩
    | _, _, some (code, message), _ =>
      some ((Fault.exitStatus code message).dueTo (faultWith cause (codedFault code message)))
    | _, _, _, some (code, message) => some (faultWith cause (codedFault code message))
    | _, _, _, _ => some (launchFailure item (cause.getD (.text "none")))

/-- The failure in a field, if the field is there. -/
def failureAt? (description : Datum) (key : String) : Option Failure :=
  match description.field key with
  | .nothing => none
  | .text message => some (.text message)
  | chain => some ((failureOfChain chain.items).getD (.text "none"))

/-- The failure in a field. -/
def failureAt (description : Datum) (key : String) : Failure :=
  (failureAt? description key).getD (.text "")

end Launchpad.Scenario
