import Launchpad.Bootstrap.Closing
import Launchpad.Launch.Instances
import Launchpad.Launch.Preparation
import Launchpad.Lifecycle.Bus

/-!
# Running an application

A run goes through a fixed sequence of steps:

1. make a bootstrap store and apply the bootstrap initializers,
2. set the headless flag of the process, once,
3. build the listeners and dispatch `starting`,
4. prepare the environment, dispatch `environmentPrepared` and bind the settings,
5. print the banner,
6. create the container,
7. prepare it: environment, hooks, context initializers, `contextPrepared`, the close of the
   bootstrap store, singletons, sources, `contextLoaded`,
8. register it for shutdown and refresh it,
9. call the after-refresh hook and dispatch `started`,
10. call the runners,
11. dispatch `running`.

The whole run is a `Plan`. The first failure ends the sequence. It then gets an exit code, is
announced to the run listeners (unless they are only now told that the application runs), is
reported or logged, and the container is closed.
-/

namespace Launchpad

/-- What changes while a run goes through its steps. -/
structure Launch where
  bus : LifecycleBus
  settings : Settings
  /-- The container, once it was created. -/
  created : Option ContainerRef := none

/-- A step of a run, which keeps a state of type `σ` and may end the run. -/
abbrev StepM (σ : Type) := ExceptT LaunchError (StateT σ Plan)

/-- A step of a run that has its bus. -/
abbrev LaunchM := StepM Launch

namespace StepM

variable {σ : Type}

/-- Follows a plan that cannot fail. -/
def act {α : Type} (plan : Plan α) : StepM σ α := ExceptT.lift (StateT.lift plan)

/-- Sends off an errand whose answer cannot be a failure. -/
def ask (errand : Errand) : StepM σ errand.Answer := act (Plan.ask errand)

/-- Ends the run if the plan failed. -/
def check {α ε : Type} (toError : ε → LaunchError) (plan : Plan (Except ε α)) : StepM σ α := do
  match ← act plan with
  | .ok answer => return answer
  | .error failure => throw (toError failure)

/-- Ends the run with the given fault if a participant failed. -/
def checked {α : Type} (fault : LaunchFault) (plan : Plan (Except Failure α)) : StepM σ α :=
  check fault.dueTo plan

/-- Ends the run if a check of its own fails. -/
def verify (own : Check) : StepM σ Unit := check id (Plan.ask (.check own))

/-- Takes a step for each item in order. -/
def each {α : Type} (step : α → StepM σ Unit) : List α → StepM σ Unit
  | [] => return ()
  | item :: rest => do
    step item
    each step rest

end StepM

/-- Dispatches a phase on the bus of the run. -/
def LaunchM.dispatch {σ : Type} (plan : LifecycleBus → Plan (LifecycleBus.Dispatched σ)) :
    LaunchM σ := do
  let launch ← get
  let dispatched ← StepM.act (plan launch.bus)
  modify fun launch => { launch with bus := dispatched.bus }
  match dispatched.result with
  | .ok () => return dispatched.state
  | .error error => throw error

namespace Application

open StepM

/-- The name of the singleton that holds the arguments. -/
def argumentsBean : String := "applicationArguments"

/-- The name of the singleton that holds the printed banner. -/
def bannerBean : String := "applicationBanner"

/-- Makes a bootstrap store and applies the initializers, an application's own before those of the
catalog. -/
def makeStore (application : Application) : StepM Unit StoreRef := do
  let store ← ask .makeStore
  let apply := each fun participant =>
    checked .bootstrapInitializer (Plan.ask (.applyBootstrapInitializer participant store))
  apply application.bootstrapInitializers
  apply (← check PluginError.toLaunchError application.catalog.bootstrapInitializersFor)
  return store

/-- Builds the bus of a run. The application listeners of the run are sorted by precedence. -/
def makeBus (application : Application) (given : List String) : StepM Unit LifecycleBus := do
  let declared ← check PluginError.toLaunchError application.catalog.applicationListenersFor
  let listeners := byPrecedence (·.order) (application.listeners ++ declared)
  let runListeners ← check PluginError.toLaunchError <| application.catalog.runListenersFor
    { application := application.name, arguments := given, listeners }
  return { listeners := runListeners, startup := application.startup }

/-- What a run does before it has a bus. -/
def makeReady (application : Application) (given : List String) :
    StepM Unit (StoreRef × LifecycleBus) := do
  let store ← application.makeStore
  ask (.setHeadless application.settings)
  return (store, ← application.makeBus given)

/-- Binds properties to the settings of the run. A binder that fails may have changed them. -/
def bindSettings (application : Application) (environment : Environment) : LaunchM Unit := do
  let settings := (← get).settings
  let (result, settings) ← ask (.bindSettings application.binder environment settings)
  modify fun launch => { launch with settings }
  checked .binding (return result)

/-- The environment of the container: one that the application brought stays as it is, another one
takes the kind that belongs to the container's. -/
def convertEnvironment (application : Application) (settings : Settings)
    (environment : Environment) : Environment :=
  match application.environment with
  | some _ => environment
  | none => environment.convert (.forApplication (application.kindUnder settings))

/-- Prepares the environment: configures it, shows it to the listeners and binds the settings. -/
def prepareEnvironment (application : Application) (store : StoreRef) (arguments : Arguments) :
    LaunchM Environment := do
  let settings := (← get).settings
  let vars ← ask .readVariables
  let configured := application.configureEnvironment settings arguments
    (application.initialEnvironment settings vars)
  let shown ← LaunchM.dispatch (·.showEnvironment store configured)
  let environment :=
    { shown with sources := shown.sources.moveLast PropertySource.defaults }
  verify (.environmentPrefix environment)
  application.bindSettings environment
  return application.convertEnvironment (← get).settings environment

/-- Prints the banner. -/
def printBanner (application : Application) (environment : Environment) :
    LaunchM (Option PrintedBanner) := do
  let settings := (← get).settings
  checked .banner <| Plan.ask <|
    .printBanner settings.bannerMode environment application.banner application.mainSource

/-- Creates the container, which has its place in the failure of the run from then on. -/
def createContainer (application : Application) : LaunchM ContainerRef := do
  let kind := application.kindUnder (← get).settings
  let container ← checked (.contextCreation kind)
    (Plan.ask (.createContainer application.factory kind))
  modify fun launch => { launch with created := some container }
  return container

/-- Calls the hook of the application before its container is filled. -/
def postProcess (application : Application) (container : ContainerRef) : LaunchM Unit := do
  if let some hooks := application.hooks then
    checked .postProcess (Plan.ask (.postProcess hooks container))

/-- Applies a context initializer to a container of a kind that it accepts. -/
def applyInitializer (container : ContainerRef) (initializer : ContextInitializer) :
    LaunchM Unit := do
  verify (.kind initializer (← ask (.inspect container)).kind)
  checked (.initializer initializer.name)
    (Plan.ask (.applyContextInitializer initializer container))

/-- Applies the context initializers of the application and of the catalog, by precedence. -/
def applyInitializers (application : Application) (container : ContainerRef) : LaunchM Unit := do
  let declared ← check PluginError.toLaunchError application.catalog.contextInitializersFor
  each (applyInitializer container)
    (byPrecedence (·.order) (application.initializers ++ declared))

/-- What is logged about the profiles of a run. -/
def profilesMessage (environment : Environment) : String :=
  let active := environment.activeProfiles
  if active.isEmpty then
    "No active profile set, falling back to default profiles: " ++
      Text.joined ", " environment.defaultProfiles
  else
    "The following profiles are active: " ++ Text.joined ", " active

/-- Logs a message about the application. -/
def logInfo (application : Application) (message : String) : LaunchM Unit :=
  ask (.log .info message [("application", application.name)])

/-- Registers a value as a singleton of the container. -/
def registerSingleton (container : ContainerRef) (name : String) (value : Value) : LaunchM Unit :=
  check (fun fault => (LaunchFault.container fault).alone)
    (Plan.ask (.registerSingleton container name value))

/-- Logs that the application starts, and with which profiles. -/
def logStarting (application : Application) (environment : Environment) : LaunchM Unit := do
  if (← get).settings.logStartupInfo then
    application.logInfo ("Starting " ++ application.name)
    application.logInfo (profilesMessage environment)

/-- Registers the arguments, and the banner if one was printed, as singletons of the container. -/
def registerSingletons (container : ContainerRef) (arguments : Arguments)
    (banner : Option PrintedBanner) : LaunchM Unit := do
  registerSingleton container argumentsBean (.arguments arguments)
  if let some banner := banner then
    registerSingleton container bannerBean (.banner banner)

/-- Sets up how the container treats its definitions. -/
def configureContainer (container : ContainerRef) : LaunchM Unit := do
  let settings := (← get).settings
  ask (.equip container (.overriding settings.allowOverriding))
  if settings.lazyInitialization then
    ask (.equip container .laziness)

/-- Loads the sources into the container. -/
def loadSources (application : Application) (container : ContainerRef) : LaunchM Unit := do
  let sources := application.sourcesUnder (← get).settings
  verify (.sources sources)
  verify (.registry (← ask (.inspect container)))
  checked .load (Plan.ask (.load application.loader container sources))

/-- Prepares a container up to the load of its sources. -/
def prepareContainer (application : Application) (store : StoreRef) (container : ContainerRef)
    (environment : Environment) (arguments : Arguments) (banner : Option PrintedBanner) :
    LaunchM Unit := do
  ask (.equip container (.environment environment))
  application.postProcess container
  application.applyInitializers container
  LaunchM.dispatch (·.give (.contextPrepared container))
  check BootstrapError.toLaunchError (BootstrapStore.close store container)
  application.logStarting environment
  registerSingletons container arguments banner
  configureContainer container
  application.loadSources container
  LaunchM.dispatch (·.give (.contextLoaded container))

/-- Registers a container for shutdown if the settings ask for it. -/
def registerForShutdown (application : Application) (container : ContainerRef) : LaunchM Unit := do
  if (← get).settings.registerShutdownHook then
    unless ← ask (.registerForShutdown application.coordinator container) do
      throw LaunchFault.shutdown.alone

/-- Calls the hook of the application after its container was refreshed. -/
def afterRefresh (application : Application) (container : ContainerRef) (arguments : Arguments) :
    LaunchM Unit := do
  if let some hooks := application.hooks then
    checked .afterRefresh (Plan.ask (.afterRefresh hooks container arguments))

/-- Logs that the application started. -/
def logStarted (application : Application) : LaunchM Unit := do
  if (← get).settings.logStartupInfo then
    application.logInfo ("Started " ++ application.name)

/-- Calls the runners of a container, each instance once, by precedence. -/
def callRunners (container : ContainerRef) (arguments : Arguments) : LaunchM Unit := do
  let runners ← ask (.runners container)
  each (fun runner =>
    checked (.runner runner.kind.name) (Plan.ask (.callRunner runner arguments)))
    (Runner.ordered runners)

/-- The steps of a run from `starting` to the last runner. -/
def launch (application : Application) (store : StoreRef) (given : List String) :
    LaunchM ContainerRef := do
  LaunchM.dispatch (·.give (.starting store application.mainSource))
  let arguments ← check (fun argument => (LaunchFault.arguments argument).alone)
    (Plan.ask (.readArguments given))
  let environment ← application.prepareEnvironment store arguments
  let banner ← application.printBanner environment
  let container ← application.createContainer
  ask (.equip container (.startup application.startup))
  application.prepareContainer store container environment arguments banner
  application.registerForShutdown container
  checked .refresh (Plan.ask (.refresh container))
  application.afterRefresh container arguments
  application.logStarted
  LaunchM.dispatch (·.give (.started container))
  callRunners container arguments
  return container

/-- Asks reporters in order until one claims the failure. -/
def consultReporters (failure : Failure) : List ExceptionReporter → Plan (Option String)
  | [] => return none
  | reporter :: rest => do
    if ← Plan.ask (.report reporter.reporting failure) then return some reporter.name
    else consultReporters failure rest

/-- Asks reporters in order until one claims the failure. -/
def askReporters (invoke : Invoker) (failure : Failure) (reporters : List ExceptionReporter) :
    Act (Option String) :=
  (consultReporters failure reporters).carryOut invoke

/-- The reporters for a failed run. If a factory fails there are none. -/
def availableReporters (application : Application) (container : Option ContainerRef) :
    Plan (List ExceptionReporter) := do
  match ← application.catalog.reportersFor container with
  | .ok reporters => return reporters
  | .error error =>
    Plan.ask (.log .warn "Exception reporters unavailable, falling back to log"
      [("error", error.toFailure.message)])
    return []

/-- Reports the failure of a run: the first reporter that claims it, else the log. -/
def reportFailure (application : Application) (container : Option ContainerRef)
    (cause : LaunchError) : Plan ReportedBy := do
  let reporters ← application.availableReporters container
  match ← consultReporters cause.toFailure reporters with
  | some name => return .reporter name
  | none =>
    Plan.ask (.log .error "Application run failed" [
      ("application", application.name), ("error", cause.message),
      ("causes", Text.quotedList cause.causeMessages)])
    return .log

/-- Announces an exit code other than zero on the container, if there is one. -/
def announceExitCode (container : Option ContainerRef) (exitCode : ExitCode) : Plan Unit :=
  match container with
  | none => return ()
  | some ref => do
    if exitCode ≠ 0 then
      if let .error failure ← Plan.ask (.publish ref (.exitCode exitCode)) then
        Plan.ask (.log .warn "Unable to publish exit code" [("error", failure.message)])

/-- Tells the listeners of the bus, if there is one, that the run failed. -/
def notifyListeners (container : Option ContainerRef) (bus : Option LifecycleBus)
    (cause : LaunchError) : Plan Unit :=
  match bus with
  | none => return ()
  | some bus => do
    let dispatched ← bus.tellFailed container (some cause.toFailure)
    if let .error error := dispatched.result then
      Plan.ask
        (.log .warn "Unable to notify run listeners of failure" [("error", error.message)])

/-- Closes the container of a failed run, if there is one. -/
def closeContainer (container : Option ContainerRef) : Plan Unit :=
  match container with
  | none => return ()
  | some ref => do
    if let .error failure ← Plan.ask (.close ref) then
      Plan.ask (.log .warn "Unable to close application context" [("error", failure.message)])

/-- What follows once the exit code of a failed run is known: it is announced, the listeners of the
bus are told, the failure is reported, and the container is closed. None of that changes the
cause. -/
def settleFailure (application : Application) (container : Option ContainerRef)
    (bus : Option LifecycleBus) (cause : LaunchError) (exitCode : ExitCode) : Plan RunFailure := do
  announceExitCode container exitCode
  notifyListeners container bus cause
  let reportedBy ← application.reportFailure container cause
  closeContainer container
  return { exitCode, reportedBy, cause }

/-- What follows the failure of a run. -/
def handleFailure (application : Application) (container : Option ContainerRef)
    (bus : Option LifecycleBus) (cause : LaunchError) : Plan RunFailure := do
  let exitCode ← Plan.ask (.resolveExitCode container cause.toFailure)
  application.settleFailure container bus cause exitCode

/-- The result of a run, and the settings as the run left them. -/
structure Outcome where
  result : Except RunError ContainerRef
  settings : Settings

/-- What follows a failure before the container runs. -/
def failStartup (application : Application) (launch : Option Launch) (cause : LaunchError) :
    Plan Outcome := do
  let failure ← application.handleFailure (launch.bind (·.created)) (launch.map (·.bus)) cause
  let settings := (launch.map (·.settings)).getD application.settings
  return { result := .error { stage := .startup, failure }, settings }

/-- Tells the listeners that the application is running, which ends a run. -/
def announceRunning (application : Application) (container : ContainerRef) (launch : Launch) :
    Plan Outcome := do
  let dispatched ← launch.bus.give (.running container)
  match dispatched.result with
  | .ok () => return { result := .ok container, settings := launch.settings }
  | .error cause =>
    let failure ← application.handleFailure (some container) none cause
    return { result := .error { stage := .running, failure }, settings := launch.settings }

/-- The plan of a run. -/
def plan (application : Application) (given : List String) : Plan Outcome := do
  match ← (application.makeReady given).run.run () with
  | (.error cause, ()) => application.failStartup none cause
  | (.ok (store, bus), ()) =>
    match ← (application.launch store given).run.run
        { bus, settings := application.settings } with
    | (.error cause, reached) => application.failStartup (some reached) cause
    | (.ok container, reached) => application.announceRunning container reached

/-- Runs an application. -/
def run (invoke : Invoker) (application : Application) (given : List String) : Act Outcome :=
  (application.plan given).carryOut invoke

end Application

end Launchpad
