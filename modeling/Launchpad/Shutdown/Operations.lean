import Launchpad.Container.Operations

/-!
# Operating shutdown coordinators

A trigger closes the registered containers and runs the actions, exactly once. In one thread a
shutdown that is asked to wait for itself can never go on; that outcome is `Abort.deadlocked`.
-/

namespace Launchpad.ShutdownCoordinator

/-- Makes a coordinator. -/
def make (signalHook : Bool) : Act CoordinatorRef := do
  let world ← get
  set { world with coordinators := world.coordinators ++ [({ signalHook } : ShutdownCoordinator)] }
  return ⟨world.coordinators.length⟩

/-- The coordinator of the whole process, which signals trigger. -/
def shared : Act CoordinatorRef := do
  match (← get).sharedCoordinator with
  | some ref => return ref
  | none =>
    let ref ← make true
    modify fun world => { world with sharedCoordinator := some ref }
    return ref

/-- Drops a coordinator: nobody holds it any more. -/
def drop (ref : CoordinatorRef) : Act Unit :=
  Act.modifyCoordinator ref fun coordinator => { coordinator with dropped := true }

/-- Puts a coordinator among those that a signal triggers, once; dropped ones leave. -/
def hook (ref : CoordinatorRef) : Act Unit :=
  modify fun world =>
    let live := world.hooked.filter fun held => !(world.coordinator held).dropped
    { world with hooked := if live.contains ref then live else live ++ [ref] }

/-- Registers a container to be closed on shutdown, until it closes by itself. The answer is false
if a shutdown has begun. -/
def registerContainer (invoke : Invoker) (ref : CoordinatorRef) (container : ContainerRef) :
    Act Bool := do
  match (← Act.coordinator ref).register container with
  | .refused => return false
  | .present => return true
  | .added coordinator =>
    Act.modifyCoordinator ref fun _ => coordinator
    Container.onClose invoke container (.deregister ref)
    if coordinator.signalHook then hook ref
    return true

/-- Removes a container. The answer says whether it was registered. -/
def deregisterContainer (ref : CoordinatorRef) (container : ContainerRef) : Act Bool := do
  let registered := (← Act.coordinator ref).isRegistered container
  Act.modifyCoordinator ref (·.deregister container)
  return registered

/-- Adds an action. A number is used up even if the action is refused. -/
def add (ref : CoordinatorRef) (stage : ActionStage) (name : String) (participant : Participant) :
    Act (Option ActionId) := do
  let (id, numbered) := (← Act.coordinator ref).takeNumber
  Act.modifyCoordinator ref fun _ => numbered
  match numbered.addAction stage { id, name, participant } with
  | none => return none
  | some coordinator =>
    Act.modifyCoordinator ref fun _ => coordinator
    return some id

/-- Removes an action. The answer says whether it was waiting. -/
def remove (ref : CoordinatorRef) (id : ActionId) : Act Bool := do
  let waiting := (← Act.coordinator ref).hasAction id
  Act.modifyCoordinator ref (·.removeAction id)
  return waiting

/-- Closes a container; a failure is only logged. -/
def closeContainer (invoke : Invoker) (container : ContainerRef) : Act Unit := do
  if let .error failure ← Container.close invoke container then
    Act.log .warn "Failed to close context" [
      ("context", (← Act.container container).id), ("error", failure.message)]

/-- Does one thing of a shutdown. -/
def perform (invoke : Invoker) : ShutdownWork → Act Unit
  | .close container => closeContainer invoke container
  | .run action => invoke (.shutdownAction action.participant)

/-- Closes the containers and runs the actions, each stage in the order of registration. -/
def runAll (invoke : Invoker) (taken : Registrations) : Act Unit := do
  Act.log .info "Shutting down" [
    ("contexts", toString taken.containers.length),
    ("actions", toString (taken.actions.length + taken.postClose.length))]
  Act.forEach (perform invoke) taken.work

/-- Runs a shutdown that has begun. It counts as done even if an action throws. -/
def shutDown (invoke : Invoker) (ref : CoordinatorRef) (taken : Registrations) : Act Unit := do
  tryCatch (runAll invoke taken) fun
    | .panicked message => do
      Act.modifyCoordinator ref finish
      throw (.panicked message)
    | abort => throw abort
  Act.modifyCoordinator ref finish

/-- What a trigger does with what it met. -/
def proceed (invoke : Invoker) (ref : CoordinatorRef) : Entry → Act Bool
  | .finished => return false
  | .occupied => throw .deadlocked
  | .begun taken begun => do
    Act.modifyCoordinator ref fun _ => begun
    shutDown invoke ref taken
    return true

/-- Runs the shutdown. The answer is true if this call ran it and false if it was done before. -/
def trigger (invoke : Invoker) (ref : CoordinatorRef) : Act Bool := do
  proceed invoke ref (← Act.coordinator ref).enter

/-- Runs the shutdown and contains an action that throws. -/
def attemptTrigger (invoke : Invoker) (ref : CoordinatorRef) : Act (Except String Bool) :=
  tryCatch (do return .ok (← trigger invoke ref)) fun
    | .panicked message => return .error message
    | abort => throw abort

/-- Drops every registration and makes the coordinator idle again. -/
def teardown (ref : CoordinatorRef) : Act Unit := do
  if (← Act.coordinator ref).status = .inProgress then throw .deadlocked
  Act.modifyCoordinator ref rearm

/-- What a signal to the process does: every hooked coordinator that is still held is triggered, in
the order of first registration. The answer is the exit code of the process. -/
def onSignal (invoke : Invoker) (signal : Nat) : Act ExitCode := do
  Act.log .info "Shutdown signal received" [("signal", toString signal)]
  let world ← get
  let live := world.hooked.filter fun ref => !(world.coordinator ref).dropped
  Act.forEach (fun ref => do discard (trigger invoke ref)) live
  return 128 + signal

end Launchpad.ShutdownCoordinator
