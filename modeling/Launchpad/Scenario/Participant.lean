import Launchpad.Event
import Launchpad.Scenario.Failure

/-!
# Described participants

A described participant captured its description, and follows it whenever it is called. Here are the
participants, and what is made of them (listeners, initializers, reporters, sources, catalogs), that
descriptions stand for.
-/

namespace Launchpad.Scenario

/-- The name of every described participant; what tells them apart is what they captured. -/
def scripted : String := "scripted"

/-- The participant that follows a description and captured some more fields. -/
def script (description : Datum) (captured : List (String × Datum) := []) : Participant :=
  { name := scripted, captured := .fields (("spec", description) :: captured) }

/-- The description that a participant follows. -/
def specOf (participant : Participant) : Datum := participant.captured.field "spec"

/-- The rank in a description. -/
def orderOf (description : Datum) : Order := (description.field "order").asCode?

/-- A container as a described participant captures it. Only who made a container sees its whole
state. -/
structure Held where
  ref : ContainerRef
  made : Bool := false

namespace Held

/-- The fields under which a container is captured. -/
def captured (held : Held) : List (String × Datum) :=
  [("container", held.ref.index), ("made", held.made)]

/-- The container that a participant captured. -/
def ofParticipant (participant : Participant) : Held :=
  { ref := ⟨participant.captured.natAt "container"⟩, made := participant.captured.flagAt "made" }

end Held

/-- An application listener, which may have captured a container. -/
def listenerOf (description : Datum) (held : Option Held := none) : ApplicationListener :=
  { participant := script description (held.elim [] Held.captured)
    order := if description.flagAt "closure" then none else orderOf description }

/-- The names of described participants that have no name of their own. -/
structure DefaultNames where
  reporter : String
  initializer : String

/-- An exception reporter. -/
def reporterOf (names : DefaultNames) (description : Datum) : ExceptionReporter :=
  if description.flagAt "unnamed" then
    { name := names.reporter, reporting := .custom (script description) }
  else
    { name := description.textAt "name"
      order := orderOf description
      reporting :=
        if description.flagAt "fixed" then .fixed (description.flagAt "claims")
        else .custom (script description) }

/-- A context initializer, which captures its name. -/
def initializerOf (names : DefaultNames) (description : Datum) : ContextInitializer :=
  if description.flagAt "unnamed" then
    { name := names.initializer
      participant := script description [("name", names.initializer)] }
  else
    { name := description.textAt "name"
      participant := script description [("name", description.textAt "name")]
      order := orderOf description
      requiredKind := kindAt? description "required" }

/-- A run listener. -/
def runListenerOf (description : Datum) : RunListener :=
  if description.flagAt "recorder" then
    .recorder ((description.textsAt "fail_in").head?.bind LifecyclePhase.ofName?)
      (orderOf description)
  else if description.has "publisher" then
    .eventPublishing ((description.itemsAt "publisher").map listenerOf)
  else
    .custom (script description)
      (if description.flagAt "quiet" then none else orderOf description)

/-- A configuration. -/
def configurationOf (description : Datum) : Configuration :=
  { name := description.textAt "name", participant := script description }

/-- A source: a text, or a description that says what kind of source it is. -/
def sourceOf (description : Datum) : Source :=
  match description.textAt? "package", description.textAt? "resource" with
  | some name, _ => .package name
  | none, some location => .resource location
  | none, none =>
    if description.has "component" then
      .component (configurationOf (description.field "component"))
    else .parse description.asText

/-- A loader, given by the configurations of its packages and resources. -/
def loaderOf (description : Datum) : DefinitionLoader :=
  let add (key : String) (put : SourceLoader → String → Configuration → SourceLoader)
      (loader : SourceLoader) : SourceLoader :=
    (description.itemsAt key).foldl (fun loader entry =>
      match entry.items with
      | [name, configuration] => put loader name.asText (configurationOf configuration)
      | _ => loader) loader
  .sources (add "resources" .withResource (add "packages" .withPackage {}))

/-- The name under which a participant is declared. -/
def declaredName (description : Datum) : String :=
  (((description.textAt? "as").or (description.textAt? "name")).or
    (description.textAt? "id")).getD ""

/-- A catalog. Every factory captures the name under which it is declared, and the default names. -/
def catalogOf (names : DefaultNames) (description : Datum) : Catalog :=
  let declare {Factory : Type} (key : String) (make : Participant → Factory)
      (start : Declarations Factory) : Declarations Factory :=
    (description.itemsAt key).foldl (fun declared entry =>
      declared.declare (declaredName entry) (make (script entry [
        ("as", declaredName entry),
        ("reporter", names.reporter), ("initializer", names.initializer)]))) start
  let start : Catalog := if description.flagAt "defaults" then .withDefaults else {}
  { runListeners := declare "run_listeners" .custom start.runListeners
    reporters := declare "reporters" id start.reporters
    bootstrapInitializers := declare "bootstrap" id start.bootstrapInitializers
    contextInitializers := declare "initializers" id start.contextInitializers
    applicationListeners := declare "listeners" id start.applicationListeners }

/-- The default names that a factory captured. -/
def DefaultNames.ofParticipant (participant : Participant) : DefaultNames :=
  { reporter := participant.captured.textAt "reporter"
    initializer := participant.captured.textAt "initializer" }

/-- The event that a step publishes. -/
def eventOf (step : Datum) : ApplicationEvent :=
  let container := step.textAt "context"
  match step.textAt "event" with
  | "EnvironmentPrepared" => .environmentPrepared (step.textsAt "profiles")
  | "ContextInitialized" => .contextInitialized container
  | "Prepared" => .prepared container
  | "ContextRefreshed" => .contextRefreshed container
  | "Started" => .started container
  | "Ready" => .ready container
  | "Failed" => .failed (step.textAt? "context") (step.textAt "message")
  | "ExitCode" => .exitCode ((step.field "code").asCode)
  | "ContextClosed" => .contextClosed container
  | _ => .starting

/-- The parsed arguments of a description. -/
def argumentsOf (description : Datum) : Except Failure Arguments :=
  (Arguments.parse (description.textsAt "args")).mapError fun argument =>
    ⟨.argumentSyntax argument, []⟩

end Launchpad.Scenario
