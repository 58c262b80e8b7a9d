import Launchpad.Container.Operations

/-!
# Run listeners

What each kind of run listener does in each phase. The publishing listener delivers events itself
until the container is loaded; then it attaches the application listeners to the container, and the
container publishes.
-/

namespace Launchpad.RunListener

/-- Records a phase, and fails if it is the phase in which the recorder fails. -/
def record (failsIn : Option LifecyclePhase) (phase : LifecyclePhase) :
    Act (Except Failure Unit) := do
  modify fun world => { world with phaseLog := world.phaseLog ++ [phase] }
  if failsIn = some phase then return .error (.text ("recorder failing in " ++ phase.name))
  return .ok ()

/-- The run begins. -/
def starting (invoke : Invoker) (store : StoreRef) : RunListener → Act (Except Failure Unit)
  | .eventPublishing listeners => Container.deliver invoke .starting listeners
  | .recorder failsIn _ => record failsIn .starting
  | .custom participant _ => invoke (.starting participant store)

/-- The environment is ready and may still be changed. -/
def environmentPrepared (invoke : Invoker) (store : StoreRef) (environment : Environment) :
    RunListener → Act (Except Failure Unit × Environment)
  | .eventPublishing listeners => do
    let result ← Container.deliver invoke
      (.environmentPrepared environment.activeProfiles) listeners
    return (result, environment)
  | .recorder failsIn _ => return (← record failsIn .environmentPrepared, environment)
  | .custom participant _ => invoke (.environmentPrepared participant store environment)

/-- The container is prepared, and no source is loaded. -/
def contextPrepared (invoke : Invoker) (container : ContainerRef) :
    RunListener → Act (Except Failure Unit)
  | .eventPublishing listeners => do
    let id := (← Act.container container).id
    Container.deliver invoke (.contextInitialized id) listeners
  | .recorder failsIn _ => record failsIn .contextPrepared
  | .custom participant _ => invoke (.containerPhase participant .contextPrepared container)

/-- The sources are loaded, and the container is not refreshed. -/
def contextLoaded (invoke : Invoker) (container : ContainerRef) :
    RunListener → Act (Except Failure Unit)
  | .eventPublishing listeners => do
    Act.modifyContainer container fun held =>
      { held with listeners := held.listeners ++ listeners }
    let id := (← Act.container container).id
    Container.deliver invoke (.prepared id) listeners
  | .recorder failsIn _ => record failsIn .contextLoaded
  | .custom participant _ => invoke (.containerPhase participant .contextLoaded container)

/-- The container is refreshed, and no runner was called. -/
def started (invoke : Invoker) (container : ContainerRef) :
    RunListener → Act (Except Failure Unit)
  | .eventPublishing _ => do
    Container.publish invoke container (.started (← Act.container container).id)
  | .recorder failsIn _ => record failsIn .started
  | .custom participant _ => invoke (.containerPhase participant .started container)

/-- Every runner completed. -/
def running (invoke : Invoker) (container : ContainerRef) :
    RunListener → Act (Except Failure Unit)
  | .eventPublishing _ => do
    Container.publish invoke container (.ready (← Act.container container).id)
  | .recorder failsIn _ => record failsIn .running
  | .custom participant _ => invoke (.containerPhase participant .running container)

/-- Delivers an event to every listener; those that fail are only logged. -/
def deliverToAll (invoke : Invoker) (event : ApplicationEvent)
    (listeners : List ApplicationListener) : Act Unit :=
  Act.forEach (fun listener => do
    if let .error failure ← invoke (.onEvent listener.participant event) then
      Act.log .warn "Error calling application listener" [("error", failure.message)]) listeners

/-- Tells application listeners about the failure of a run: through the container if it is active,
else directly. -/
def publishFailure (invoke : Invoker) (container : Option ContainerRef) (failure : Option Failure)
    (listeners : List ApplicationListener) : Act (Except Failure Unit) := do
  let message := (failure.map Failure.message).getD ""
  match container with
  | none =>
    deliverToAll invoke (.failed none message) listeners
    return .ok ()
  | some ref =>
    let held ← Act.container ref
    let event := ApplicationEvent.failed (some held.id) message
    if held.isActive then Container.publish invoke ref event
    else
      deliverToAll invoke event listeners
      return .ok ()

/-- The run failed. -/
def failed (invoke : Invoker) (container : Option ContainerRef) (failure : Option Failure) :
    RunListener → Act (Except Failure Unit)
  | .eventPublishing listeners => publishFailure invoke container failure listeners
  | .recorder failsIn _ => record failsIn .failed
  | .custom participant _ => invoke (.failed participant container failure)

end Launchpad.RunListener
