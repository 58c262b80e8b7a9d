import Launchpad.Measurement

/-!
# Operating containers

Refreshing, closing and publishing. Participants are called between the sections of an operation and
never inside one, so they may operate the same container again; what they change is seen by the
sections that follow.
-/

namespace Launchpad.Container

/-- How a new container differs from a plain one. -/
structure Options where
  /-- The identifier; without one the container is numbered. Tracking containers are always
  numbered. -/
  id : Option String := none
  tracking : Option Tracking := none
  hidesRegistry : Bool := false
  refreshFailure : Option Failure := none
  deriving Repr

/-- Makes a container. -/
def make (kind : ApplicationKind) (options : Options := {}) : Act ContainerRef := do
  let world ← get
  let container (id : String) : Container :=
    { id, kind
      tracking := options.tracking
      hidesRegistry := options.hidesRegistry
      refreshFailure := options.refreshFailure }
  let ref : ContainerRef := ⟨world.containers.length⟩
  match options.id, options.tracking with
  | some id, none => set { world with containers := world.containers ++ [container id] }
  | _, _ =>
    let id := "application-" ++ toString world.nextContainer
    set { world with
      containers := world.containers ++ [container id]
      nextContainer := world.nextContainer + 1 }
  return ref

/-- Registers a bean. -/
def register (ref : ContainerRef) (name : String) (bean : Bean) :
    Act (Except ContainerFault Unit) := do
  match (← Act.container ref).registerBean name bean with
  | .error fault => return .error fault
  | .ok container =>
    Act.modifyContainer ref fun _ => container
    return .ok ()

/-- Tells the listeners about an event, up to the first that fails. -/
def deliver (invoke : Invoker) (event : ApplicationEvent) (listeners : List ApplicationListener) :
    Act (Except Failure Unit) :=
  untilFailure (fun listener => invoke (.onEvent listener.participant event)) listeners

/-- Publishes an event to the listeners that the container has now. -/
def publish (invoke : Invoker) (ref : ContainerRef) (event : ApplicationEvent) :
    Act (Except Failure Unit) := do
  deliver invoke event (← Act.container ref).listeners

/-- The name of the step under which a refresh is measured. -/
def refreshStep : String := "liftoff.context.refresh"

/-- Refreshes a container that is neither refreshed nor closed, and publishes that. -/
def refresh (invoke : Invoker) (ref : ContainerRef) : Act (Except Failure Unit) := do
  let container ← Act.container ref
  if let some failure := container.refreshFailure then
    return .error failure
  match container.beginRefresh with
  | .error fault => return .error (.container fault)
  | .ok startup =>
    let step ← startup.begin invoke refreshStep
    let step ← startup.tag invoke step "context" container.id
    Act.modifyContainer ref markActive
    let active ← Act.container ref
    Act.log .info "Context refreshed" [
      ("context", active.id), ("kind", active.kind.name), ("beans", toString active.beans.length),
      ("lazy", toString active.lazyInitialization)]
    startup.finish invoke step
    publish invoke ref (.contextRefreshed container.id)

/-- Runs a close callback. A coordinator that nobody holds any more is left alone. -/
def runCallback (invoke : Invoker) (ref : ContainerRef) : CloseCallback → Act Unit
  | .custom participant => invoke (.containerClosed participant)
  | .deregister coordinator => do
    unless (← Act.coordinator coordinator).dropped do
      Act.modifyCoordinator coordinator (·.deregister ref)

/-- Closes a container unless it is closed: announces the end if the container was active, then runs
the callbacks. A listener that fails is only logged. -/
def closeOnce (invoke : Invoker) (ref : ContainerRef) : Act Unit := do
  let container ← Act.container ref
  match container.beginClose with
  | none => return ()
  | some closing =>
    Act.modifyContainer ref fun _ => closing.closed
    if closing.wasActive then
      if let .error failure ← publish invoke ref (.contextClosed container.id) then
        Act.log .warn "Exception thrown from listener while closing" [
          ("context", container.id), ("error", failure.message)]
    Act.forEach (runCallback invoke ref) closing.callbacks
    Act.log .info "Context closed" [("context", container.id)]

/-- Closes a container. Only a tracking container can report a failure, and it does so after closing
normally. -/
def close (invoke : Invoker) (ref : ContainerRef) : Act (Except Failure Unit) := do
  Act.modifyContainer ref countClose
  closeOnce invoke ref
  match (← Act.container ref).tracking.bind (·.closeFailure) with
  | some message => return .error (.text message)
  | none => return .ok ()

/-- Registers a callback for the close; a closed container runs it at once. -/
def onClose (invoke : Invoker) (ref : ContainerRef) (callback : CloseCallback) : Act Unit := do
  if (← Act.container ref).isClosed then runCallback invoke ref callback
  else Act.modifyContainer ref (·.addCallback callback)

/-- Loads one source: every configuration it stands for registers its beans, then the source is
recorded. -/
def loadSource (invoke : Invoker) (loader : SourceLoader) (ref : ContainerRef) (source : Source) :
    Act (Except Failure Unit) := do
  match loader.resolve source with
  | .error failure => return .error failure
  | .ok configurations =>
    match ← untilFailure (fun configuration =>
        invoke (.configure configuration.participant ref)) configurations with
    | .error failure => return .error failure
    | .ok () =>
      Act.modifyContainer ref (·.registerSource source.name)
      return .ok ()

/-- Loads sources in order, up to the first failure. -/
def load (invoke : Invoker) (loader : DefinitionLoader) (ref : ContainerRef)
    (sources : List Source) : Act (Except Failure Unit) :=
  match loader with
  | .sources loader => untilFailure (loadSource invoke loader ref) sources
  | .custom participant => invoke (.loadSources participant ref sources)

/-- Calls a runner with what its kind is given. -/
def callRunner (invoke : Invoker) (runner : Runner) (arguments : Arguments) :
    Act (Except Failure Unit) :=
  match runner.kind with
  | .application => invoke (.runApplication runner.participant arguments)
  | .commandLine => invoke (.runCommandLine runner.participant arguments.given)

end Launchpad.Container
