import Launchpad.Banner
import Launchpad.Binding
import Launchpad.Catalog
import Launchpad.ExitCode
import Launchpad.Failure.Message
import Launchpad.Source
import Launchpad.Startup

/-!
# Applications

An `Application` describes what to start and with which participants. Its settings are the part that
a run may change, by binding properties to them.
-/

namespace Launchpad

/-- What builds the container of a run. -/
inductive ContainerFactory where
  | standard
  /-- Builds tracking containers, whose closes may be made to fail. -/
  | tracking (closeFailure : Option String)
  | custom (participant : Participant)
  deriving DecidableEq, Repr

/-- What binds properties to the settings. -/
inductive SettingsBinder where
  | standard
  | custom (participant : Participant)
  deriving DecidableEq, Repr

/-- What to start, and with which participants. -/
structure Application where
  name : String := "application"
  /-- Identifies the main source in measurements and the banner. -/
  mainSource : Option String := none
  primarySources : List Source
  settings : Settings := {}
  catalog : Catalog
  /-- Capability markers from which the kind is deduced. -/
  markers : List String := []
  banner : Option Banner := none
  /-- An environment to use as it is, without conversion to another kind. -/
  environment : Option Environment := none
  /-- Selects the process variables that a created environment exposes. -/
  environmentPrefix : Option String := none
  defaultProperties : Properties := .empty
  additionalProfiles : List String := []
  bootstrapInitializers : List Participant := []
  initializers : List ContextInitializer := []
  listeners : List ApplicationListener := []
  factory : ContainerFactory := .standard
  loader : DefinitionLoader := .sources {}
  binder : SettingsBinder := .standard
  startup : Startup := .discarded
  hooks : Option Participant := none
  coordinator : CoordinatorRef
  deriving Repr

namespace Application

/-- The kind under the given settings: the one they name, else the one deduced from the markers. -/
def kindUnder (application : Application) (settings : Settings) : ApplicationKind :=
  settings.applicationKind.getD (.deduce application.markers)

/-- The sources under the given settings: the primary ones followed by the textual ones. -/
def sourcesUnder (application : Application) (settings : Settings) : List Source :=
  application.primarySources ++ settings.sources.map Source.parse

/-- The configured kind, or the kind deduced from the markers. -/
def kind (application : Application) : ApplicationKind := application.kindUnder application.settings

/-- The primary sources followed by the textual ones. -/
def sources (application : Application) : List Source :=
  application.sourcesUnder application.settings

end Application

/-- Who presented the failure of a run. -/
inductive ReportedBy where
  | reporter (name : String)
  /-- Nobody claimed the failure, and it was logged. -/
  | log
  deriving DecidableEq, Repr

/-- The outcome of a failed run. -/
structure RunFailure where
  exitCode : ExitCode
  reportedBy : ReportedBy
  cause : LaunchError
  deriving DecidableEq, Repr

/-- The message of a failed run's outcome. -/
def RunFailure.message (failure : RunFailure) : String :=
  "exit code " ++ toString failure.exitCode

/-- When a run failed. -/
inductive RunStage where
  /-- Before every runner had completed. -/
  | startup
  /-- While the listeners were told that the application is running. -/
  | running
  deriving DecidableEq, Repr

/-- The error of a run. -/
structure RunError where
  stage : RunStage
  failure : RunFailure
  deriving DecidableEq, Repr

namespace RunError

/-- The message of a run's error tells when the run failed, and the step that failed. -/
def message (error : RunError) : String :=
  (match error.stage with
    | .startup => "Application run failed: "
    | .running => "Application failed after startup: ") ++ error.failure.cause.message

/-- The messages of the causes, outermost first: the outcome, the step that failed and its
causes. -/
def causeMessages (error : RunError) : List String :=
  error.failure.message :: error.failure.cause.message :: error.failure.cause.causeMessages

end RunError

end Launchpad
