import Launchpad.Launch.Plan

/-!
# The lifecycle bus

The bus holds the listeners of one run and dispatches each phase to all of them in order. It refuses
a phase that cannot follow the last one. The first listener that fails ends a dispatch, except that
the failures of listeners that are told about an error are only logged. Every accepted dispatch
reports exactly one startup step.
-/

namespace Launchpad

/-- The listeners of one run, and the last phase dispatched to them. -/
structure LifecycleBus where
  /-- The listeners, by precedence. -/
  listeners : List RunListener
  startup : Startup
  phase : Option LifecyclePhase := none
  deriving Repr

namespace LifecycleBus

/-- Calls the listeners in order, up to the first failure, and hands a state from one to the
next. -/
def visit {σ : Type} (call : σ → RunListener → Plan (Except Failure Unit × σ)) (state : σ) :
    List RunListener → Plan (Except Failure Unit × σ)
  | [] => return (.ok (), state)
  | listener :: rest => do
    match ← call state listener with
    | (.error failure, state) => return (.error failure, state)
    | (.ok (), state) => visit call state rest

/-- Gives a step of measurement several tags, in order. -/
def tagAll (startup : Startup) (step : StartupStep) : List (String × String) → Plan StartupStep
  | [] => return step
  | (key, text) :: rest => do
    let step ← Plan.ask (.tagPhase startup step key text)
    tagAll startup step rest

/-- The result of a dispatch: what came of it, the bus, and the state of the listeners' visit. -/
structure Dispatched (σ : Type) where
  result : Except LaunchError Unit
  bus : LifecycleBus
  state : σ

/-- Calls the listeners in a phase that the bus has entered, and ends its measurement. -/
def goThrough {σ : Type} (bus : LifecycleBus) (phase : LifecyclePhase)
    (tags : List (String × String)) (state : σ)
    (call : σ → RunListener → Plan (Except Failure Unit × σ)) (step : StartupStep) :
    Plan (Dispatched σ) := do
  let step ← tagAll bus.startup step tags
  let (result, state) ← visit call state bus.listeners
  Plan.ask (.leavePhase bus.startup step)
  return {
    result := result.mapError (LaunchFault.listener phase).dueTo
    bus := { bus with phase := some phase }
    state }

/-- Dispatches a phase. -/
def dispatch {σ : Type} (bus : LifecycleBus) (phase : LifecyclePhase)
    (tags : List (String × String)) (state : σ)
    (call : σ → RunListener → Plan (Except Failure Unit × σ)) : Plan (Dispatched σ) := do
  if phase.canFollow bus.phase then
    bus.goThrough phase tags state call (← Plan.ask (.enterPhase bus.startup phase))
  else
    return { result := .error (LaunchFault.phaseOrder bus.phase phase).alone, bus, state }

/-- Dispatches a phase whose listeners hand on no state. -/
def dispatchPlain (bus : LifecycleBus) (phase : LifecyclePhase) (tags : List (String × String))
    (call : RunListener → Plan (Except Failure Unit)) : Plan (Dispatched Unit) :=
  bus.dispatch phase tags () fun _ listener => return (← call listener, ())

/-- Gives a notice to the listeners, in its phase. -/
def give (bus : LifecycleBus) (notice : Notice) : Plan (Dispatched Unit) :=
  bus.dispatchPlain notice.phase notice.tags fun listener => Plan.ask (.tell listener notice)

/-- Shows the environment to the listeners, which may still change it. -/
def showEnvironment (bus : LifecycleBus) (store : StoreRef) (environment : Environment) :
    Plan (Dispatched Environment) :=
  bus.dispatch .environmentPrepared [] environment fun environment listener =>
    Plan.ask (.showEnvironment listener store environment)

/-- The tags under which a failure is measured. -/
def failureTags : Option Failure → List (String × String)
  | none => []
  | some failure => [("exception", failure.inspected), ("message", failure.message)]

/-- Tells a listener about a failure. If there is one to tell, the listener's own failure is only
logged. -/
def notifyFailed (container : Option ContainerRef) (failure : Option Failure)
    (listener : RunListener) : Plan (Except Failure Unit) := do
  match ← Plan.ask (.tellFailed listener container failure), failure with
  | .error own, some _ =>
    Plan.ask (.log .warn "Error handling failed" [("error", own.message)])
    return .ok ()
  | result, _ => return result

/-- Tells the listeners that the run failed. With a failure to tell every listener is called,
without one the first listener that fails ends the dispatch. -/
def tellFailed (bus : LifecycleBus) (container : Option ContainerRef) (failure : Option Failure) :
    Plan (Dispatched Unit) :=
  bus.dispatchPlain .failed (failureTags failure) (notifyFailed container failure)

/-- The run begins. -/
def starting (invoke : Invoker) (bus : LifecycleBus) (store : StoreRef)
    (mainSource : Option String) : Act (Dispatched Unit) :=
  (bus.give (.starting store mainSource)).carryOut invoke

/-- The environment is ready and may still be changed. -/
def environmentPrepared (invoke : Invoker) (bus : LifecycleBus) (store : StoreRef)
    (environment : Environment) : Act (Dispatched Environment) :=
  (bus.showEnvironment store environment).carryOut invoke

/-- The container is prepared, and no source is loaded. -/
def contextPrepared (invoke : Invoker) (bus : LifecycleBus) (container : ContainerRef) :
    Act (Dispatched Unit) :=
  (bus.give (.contextPrepared container)).carryOut invoke

/-- The sources are loaded, and the container is not refreshed. -/
def contextLoaded (invoke : Invoker) (bus : LifecycleBus) (container : ContainerRef) :
    Act (Dispatched Unit) :=
  (bus.give (.contextLoaded container)).carryOut invoke

/-- The container is refreshed, and no runner was called. -/
def started (invoke : Invoker) (bus : LifecycleBus) (container : ContainerRef) :
    Act (Dispatched Unit) :=
  (bus.give (.started container)).carryOut invoke

/-- Every runner completed. -/
def running (invoke : Invoker) (bus : LifecycleBus) (container : ContainerRef) :
    Act (Dispatched Unit) :=
  (bus.give (.running container)).carryOut invoke

/-- The run failed. -/
def failed (invoke : Invoker) (bus : LifecycleBus) (container : Option ContainerRef)
    (failure : Option Failure) : Act (Dispatched Unit) :=
  (bus.tellFailed container failure).carryOut invoke

end LifecycleBus

end Launchpad
