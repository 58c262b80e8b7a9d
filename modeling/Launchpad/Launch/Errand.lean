import Launchpad.Bootstrap.Operations
import Launchpad.Container.Exit
import Launchpad.Launch.Banner
import Launchpad.Lifecycle.Listener
import Launchpad.Shutdown.Operations

/-!
# Errands of a run

Everything that a run asks of its participants, its container and its surroundings is an `Errand`:
a call to a listener, the refresh of the container, a check of its own. `Errand.Answer` is the type
of what comes back, and `Errand.carryOut` is what an errand does.
-/

namespace Launchpad

/-- What a run listener is told in a phase that hands on no state. -/
inductive Notice where
  | starting (store : StoreRef) (mainSource : Option String)
  | contextPrepared (container : ContainerRef)
  | contextLoaded (container : ContainerRef)
  | started (container : ContainerRef)
  | running (container : ContainerRef)
  deriving DecidableEq, Repr

namespace Notice

/-- The phase in which a notice is given. -/
def phase : Notice → LifecyclePhase
  | starting .. => .starting
  | contextPrepared _ => .contextPrepared
  | contextLoaded _ => .contextLoaded
  | started _ => .started
  | running _ => .running

/-- The tags under which the phase is measured. -/
def tags : Notice → List (String × String)
  | starting _ mainSource => (mainSource.map fun name => ("mainSource", name)).toList
  | _ => []

/-- Gives the notice to a listener. -/
def tell (invoke : Invoker) (listener : RunListener) : Notice → Act (Except Failure Unit)
  | starting store _ => listener.starting invoke store
  | contextPrepared container => listener.contextPrepared invoke container
  | contextLoaded container => listener.contextLoaded invoke container
  | started container => listener.started invoke container
  | running container => listener.running invoke container

end Notice

/-- What a factory of the catalog builds for the start of a run, and from what. -/
inductive Construction where
  | bootstrapInitializer (factory : Participant)
  | applicationListener (factory : Participant)
  | runListener (factory : RunListenerFactory) (arguments : ListenerArguments)
  | contextInitializer (factory : Participant)
  deriving DecidableEq, Repr

namespace Construction

/-- What is built. -/
@[reducible] def Product : Construction → Type
  | bootstrapInitializer _ => Participant
  | applicationListener _ => ApplicationListener
  | runListener .. => RunListener
  | contextInitializer _ => ContextInitializer

/-- The capability that is asked for. -/
def capability : Construction → String
  | bootstrapInitializer _ => Catalog.bootstrapCapability
  | applicationListener _ => Catalog.listenerCapability
  | runListener .. => Catalog.runListenerCapability
  | contextInitializer _ => Catalog.initializerCapability

/-- Calls the factory. -/
def carryOut (invoke : Invoker) :
    (construction : Construction) → Act (Except Failure construction.Product)
  | bootstrapInitializer factory => invoke (.buildBootstrapInitializer factory)
  | applicationListener factory => invoke (.buildApplicationListener factory)
  | runListener .eventPublishing arguments => return .ok (.eventPublishing arguments.listeners)
  | runListener (.custom factory) arguments => invoke (.buildRunListener factory arguments)
  | contextInitializer factory => invoke (.buildContextInitializer factory)

end Construction

/-- What a run checks by itself. -/
inductive Check where
  /-- The environment prefix is not set by a property. -/
  | environmentPrefix (environment : Environment)
  /-- A context initializer accepts the kind of the container. -/
  | kind (initializer : ContextInitializer) (actual : ApplicationKind)
  /-- There is something to load. -/
  | sources (given : List Source)
  /-- The container shows its definition registry. -/
  | registry (container : Container)

namespace Check

/-- The property that may not be used to set the environment prefix. -/
def environmentPrefixProperty : String := "liftoff.main.environment-prefix"

/-- The result of a check. -/
def verdict : Check → Except LaunchError Unit
  | environmentPrefix environment =>
    if environment.has environmentPrefixProperty then .error LaunchFault.environmentPrefix.alone
    else .ok ()
  | kind initializer actual =>
    match initializer.requiredKind with
    | some required =>
      if required ≠ actual then
        .error (LaunchFault.initializerMismatch initializer.name required actual).alone
      else .ok ()
    | none => .ok ()
  | sources given =>
    if given.isEmpty then .error LaunchFault.noSources.alone else .ok ()
  | registry container =>
    if container.hidesRegistry then .error LaunchFault.noDefinitionRegistry.alone else .ok ()

end Check

/-- What a run gives its container. -/
inductive Equipment where
  | startup (given : Startup)
  | environment (given : Environment)
  | overriding (allow : Bool)
  | laziness

/-- The container with what it was given. -/
def Equipment.applyTo (container : Container) : Equipment → Container
  | startup given => { container with startup := given }
  | environment given => { container with environment := some given }
  | overriding allow => { container with allowOverriding := allow }
  | laziness => { container with lazyInitialization := true }

/-- Binds the properties of an environment to settings. A binder that fails may have changed
them. -/
def SettingsBinder.bind (invoke : Invoker) (environment : Environment) (settings : Settings) :
    SettingsBinder → Act (Except Failure Unit × Settings)
  | standard =>
    match Binding.bind environment Binding.mainRoot settings with
    | .ok bound => return (.ok (), bound)
    | .error failure => return (.error failure, settings)
  | custom participant =>
    invoke (.bindSettings participant environment Binding.mainRoot settings)

/-- Creates a container. -/
def ContainerFactory.create (invoke : Invoker) (kind : ApplicationKind) :
    ContainerFactory → Act (Except Failure ContainerRef)
  | standard => return .ok (← Container.make kind)
  | tracking closeFailure =>
    return .ok (← Container.make kind { tracking := some { closeFailure, handedOut := true } })
  | custom participant => invoke (.createContainer participant kind)

/-- Asks a reporter whether it reports a failure. -/
def Reporting.claims (invoke : Invoker) (failure : Failure) : Reporting → Act Bool
  | fixed claims => return claims
  | custom participant => invoke (.report participant failure)

/-- The process variable that overrides the headless setting. -/
def headlessVariable : String := "LIFTOFF_HEADLESS"

/-- The headless flag that the process variables ask for. -/
def headlessOf (vars : List (String × String)) : Option Bool :=
  match (vars.lookup headlessVariable).map Text.trim with
  | some "true" => some true
  | some "false" => some false
  | _ => none

/-- One thing that a run asks for. -/
inductive Errand where
  | makeStore
  | setHeadless (settings : Settings)
  | readVariables
  | log (level : LogLevel) (message : String) (fields : List (String × String))
  | readArguments (given : List String)
  | check (own : Check)
  /-- Begins the measurement of a phase: the bus enters it. -/
  | enterPhase (startup : Startup) (phase : LifecyclePhase)
  | tagPhase (startup : Startup) (step : StartupStep) (key text : String)
  | leavePhase (startup : Startup) (step : StartupStep)
  /-- Calls the factory that is declared under a name. -/
  | build (name : String) (construction : Construction)
  | applyBootstrapInitializer (participant : Participant) (store : StoreRef)
  | tell (listener : RunListener) (notice : Notice)
  | showEnvironment (listener : RunListener) (store : StoreRef) (environment : Environment)
  | bindSettings (binder : SettingsBinder) (environment : Environment) (settings : Settings)
  | printBanner (mode : BannerMode) (environment : Environment) (own : Option Banner)
      (mainSource : Option String)
  | createContainer (factory : ContainerFactory) (kind : ApplicationKind)
  | inspect (container : ContainerRef)
  | equip (container : ContainerRef) (equipment : Equipment)
  | postProcess (hooks : Participant) (container : ContainerRef)
  | applyContextInitializer (initializer : ContextInitializer) (container : ContainerRef)
  /-- Closes the bootstrap store and takes its close actions. -/
  | beginCloseStore (store : StoreRef)
  | runCloseAction (store : StoreRef) (container : ContainerRef) (action : CloseAction)
  | registerSingleton (container : ContainerRef) (name : String) (value : Value)
  | load (loader : DefinitionLoader) (container : ContainerRef) (sources : List Source)
  | registerForShutdown (coordinator : CoordinatorRef) (container : ContainerRef)
  | refresh (container : ContainerRef)
  | afterRefresh (hooks : Participant) (container : ContainerRef) (arguments : Arguments)
  /-- The runner beans of the container. -/
  | runners (container : ContainerRef)
  | callRunner (runner : Runner) (arguments : Arguments)
  | resolveExitCode (container : Option ContainerRef) (failure : Failure)
  | publish (container : ContainerRef) (event : ApplicationEvent)
  | tellFailed (listener : RunListener) (container : Option ContainerRef)
      (failure : Option Failure)
  | buildReporter (name : String) (factory : Participant) (container : Option ContainerRef)
  | report (reporting : Reporting) (failure : Failure)
  | close (container : ContainerRef)

namespace Errand

/-- What comes back from an errand. -/
@[reducible] def Answer : Errand → Type
  | makeStore => StoreRef
  | setHeadless _ => Unit
  | readVariables => List (String × String)
  | log .. => Unit
  | readArguments _ => Except String Arguments
  | check _ => Except LaunchError Unit
  | enterPhase .. => StartupStep
  | tagPhase .. => StartupStep
  | leavePhase .. => Unit
  | build _ construction => Except Failure construction.Product
  | applyBootstrapInitializer .. => Except Failure Unit
  | tell .. => Except Failure Unit
  | showEnvironment .. => Except Failure Unit × Environment
  | bindSettings .. => Except Failure Unit × Settings
  | printBanner .. => Except Failure (Option PrintedBanner)
  | createContainer .. => Except Failure ContainerRef
  | inspect _ => Container
  | equip .. => Unit
  | postProcess .. => Except Failure Unit
  | applyContextInitializer .. => Except Failure Unit
  | beginCloseStore _ => Except BootstrapFault (List CloseAction)
  | runCloseAction .. => Except Failure Unit
  | registerSingleton .. => Except ContainerFault Unit
  | load .. => Except Failure Unit
  | registerForShutdown .. => Bool
  | refresh _ => Except Failure Unit
  | afterRefresh .. => Except Failure Unit
  | runners _ => List Runner
  | callRunner .. => Except Failure Unit
  | resolveExitCode .. => ExitCode
  | publish .. => Except Failure Unit
  | tellFailed .. => Except Failure Unit
  | buildReporter .. => Except Failure ExceptionReporter
  | report .. => Bool
  | close _ => Except Failure Unit

/-- Carries out an errand. -/
def carryOut (invoke : Invoker) : (errand : Errand) → Act errand.Answer
  | makeStore => BootstrapStore.make
  | setHeadless settings =>
    modify fun world =>
      { world with
        headless := world.headless.or ((headlessOf world.vars).or (some settings.headless)) }
  | readVariables => return (← get).vars
  | log level message fields => Act.log level message fields
  | readArguments given => return Arguments.parse given
  | check own => return own.verdict
  | enterPhase startup phase => startup.begin invoke phase.stepName
  | tagPhase startup step key text => startup.tag invoke step key text
  | leavePhase startup step => startup.finish invoke step
  | build _ construction => construction.carryOut invoke
  | applyBootstrapInitializer participant store =>
    invoke (.applyBootstrapInitializer participant store)
  | tell listener notice => notice.tell invoke listener
  | showEnvironment listener store environment =>
    listener.environmentPrepared invoke store environment
  | bindSettings binder environment settings => binder.bind invoke environment settings
  | printBanner mode environment own mainSource =>
    Banner.printSelected invoke mode environment own mainSource
  | createContainer factory kind => factory.create invoke kind
  | inspect container => Act.container container
  | equip container equipment => Act.modifyContainer container (equipment.applyTo ·)
  | postProcess hooks container => invoke (.postProcess hooks container)
  | applyContextInitializer initializer container =>
    invoke (.applyContextInitializer initializer.participant container)
  | beginCloseStore store => BootstrapStore.begin store
  | runCloseAction store container action => BootstrapStore.runAction invoke store container action
  | registerSingleton container name value => Container.register container name (.value value)
  | load loader container sources => Container.load invoke loader container sources
  | registerForShutdown coordinator container =>
    ShutdownCoordinator.registerContainer invoke coordinator container
  | refresh container => Container.refresh invoke container
  | afterRefresh hooks container arguments => invoke (.afterRefresh hooks container arguments)
  | runners container => return (← Act.container container).runners
  | callRunner runner arguments => Container.callRunner invoke runner arguments
  | resolveExitCode container failure => Container.resolveExitCode invoke container failure
  | publish container event => Container.publish invoke container event
  | tellFailed listener container failure => listener.failed invoke container failure
  | buildReporter _ factory container => invoke (.buildReporter factory container)
  | report reporting failure => reporting.claims invoke failure
  | close container => Container.close invoke container

end Errand

end Launchpad
