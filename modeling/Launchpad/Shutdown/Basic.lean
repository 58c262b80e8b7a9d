import Launchpad.Handle
import Launchpad.Participant

/-!
# Shutdown coordinators

A coordinator knows the live containers and the actions to run when the process shuts down. The
first trigger takes all registrations and runs the shutdown; registration is refused from then on.
The definitions here are the sections of the operations that happen under the coordinator's lock.
-/

namespace Launchpad

/-- How far a shutdown has come. -/
inductive ShutdownStatus where
  | idle
  | inProgress
  | done
  deriving DecidableEq, Repr

/-- A handle to a shutdown action. -/
structure ActionId where
  number : Nat
  deriving DecidableEq, Repr, Inhabited

/-- The inspection text of a handle. -/
def ActionId.inspected (id : ActionId) : String := "ActionId(" ++ toString id.number ++ ")"

/-- A registered shutdown action. -/
structure ShutdownAction where
  id : ActionId
  name : String
  participant : Participant
  deriving DecidableEq, Repr

/-- When an action runs. -/
inductive ActionStage where
  /-- After the containers are closed. -/
  | shutdown
  /-- After every action of the first stage. -/
  | postClose
  deriving DecidableEq, Repr

/-- Live containers and shutdown actions. -/
structure ShutdownCoordinator where
  status : ShutdownStatus := .idle
  containers : List ContainerRef := []
  actions : List ShutdownAction := []
  postClose : List ShutdownAction := []
  /-- The number of the next action. A counter of 64 bits would only come round after as many
  additions as it has values, which no process lives to make, so numbers do not come round here. -/
  nextAction : Nat := 1
  /-- Whether signals to the process trigger the coordinator. -/
  signalHook : Bool := false
  /-- Whether nobody holds the coordinator any more. -/
  dropped : Bool := false
  deriving DecidableEq, Repr, Inhabited

/-- The registrations that a trigger takes. -/
structure Registrations where
  containers : List ContainerRef
  actions : List ShutdownAction
  postClose : List ShutdownAction
  deriving DecidableEq, Repr

/-- One thing that a shutdown does. -/
inductive ShutdownWork where
  | close (container : ContainerRef)
  | run (action : ShutdownAction)
  deriving DecidableEq, Repr

/-- Everything that a shutdown does with the registrations it took, in order. -/
def Registrations.work (taken : Registrations) : List ShutdownWork :=
  taken.containers.map .close ++ (taken.actions ++ taken.postClose).map .run

/-- The containers are closed first, and the actions of the last stage run last. -/
theorem Registrations.work_eq (taken : Registrations) :
    taken.work =
      taken.containers.map .close ++ taken.actions.map .run ++ taken.postClose.map .run := by
  rw [work, List.map_append, List.append_assoc]

namespace ShutdownCoordinator

/-- Whether registrations are accepted. -/
def accepting (coordinator : ShutdownCoordinator) : Bool := coordinator.status = .idle

/-- Whether a shutdown has begun. -/
def isTriggered (coordinator : ShutdownCoordinator) : Bool := coordinator.status != .idle

/-- Whether a container is registered. -/
def isRegistered (coordinator : ShutdownCoordinator) (container : ContainerRef) : Bool :=
  coordinator.containers.contains container

/-- What became of the registration of a container. -/
inductive Registration where
  /-- A shutdown has begun. -/
  | refused
  /-- The container was registered before. -/
  | present
  | added (coordinator : ShutdownCoordinator)
  deriving DecidableEq, Repr

/-- Registers a container. -/
def register (coordinator : ShutdownCoordinator) (container : ContainerRef) : Registration :=
  if !coordinator.accepting then .refused
  else if coordinator.isRegistered container then .present
  else .added { coordinator with containers := coordinator.containers ++ [container] }

/-- Removes a container. -/
def deregister (coordinator : ShutdownCoordinator) (container : ContainerRef) :
    ShutdownCoordinator :=
  { coordinator with containers := coordinator.containers.filter (· ≠ container) }

/-- Takes a number for an action, before it is known whether the action is accepted. Since a number
is never given back, two additions never share one. -/
def takeNumber (coordinator : ShutdownCoordinator) : ActionId × ShutdownCoordinator :=
  (⟨coordinator.nextAction⟩, { coordinator with nextAction := coordinator.nextAction + 1 })

/-- Puts an action behind the others of its stage. -/
def putAction (coordinator : ShutdownCoordinator) (action : ShutdownAction) :
    ActionStage → ShutdownCoordinator
  | .shutdown => { coordinator with actions := coordinator.actions ++ [action] }
  | .postClose => { coordinator with postClose := coordinator.postClose ++ [action] }

/-- Adds an action to a stage, unless a shutdown has begun. -/
def addAction (coordinator : ShutdownCoordinator) (stage : ActionStage) (action : ShutdownAction) :
    Option ShutdownCoordinator :=
  if !coordinator.accepting then none else some (coordinator.putAction action stage)

/-- Whether an action is waiting for the shutdown. -/
def hasAction (coordinator : ShutdownCoordinator) (id : ActionId) : Bool :=
  (coordinator.actions ++ coordinator.postClose).any (·.id = id)

/-- Removes an action. -/
def removeAction (coordinator : ShutdownCoordinator) (id : ActionId) : ShutdownCoordinator :=
  { coordinator with
    actions := coordinator.actions.filter (·.id ≠ id)
    postClose := coordinator.postClose.filter (·.id ≠ id) }

/-- Begins the shutdown: takes every registration. -/
def begin (coordinator : ShutdownCoordinator) : Registrations × ShutdownCoordinator :=
  ({ containers := coordinator.containers
     actions := coordinator.actions
     postClose := coordinator.postClose },
   { coordinator with status := .inProgress, containers := [], actions := [], postClose := [] })

/-- What a trigger meets when it has the lock. -/
inductive Entry where
  /-- The shutdown is done. -/
  | finished
  /-- Another trigger runs the shutdown. -/
  | occupied
  | begun (taken : Registrations) (coordinator : ShutdownCoordinator)
  deriving DecidableEq, Repr

/-- Begins the shutdown unless it has begun before. -/
def enter (coordinator : ShutdownCoordinator) : Entry :=
  match coordinator.status with
  | .done => .finished
  | .inProgress => .occupied
  | .idle => .begun coordinator.begin.1 coordinator.begin.2

/-- Marks the shutdown as finished. -/
def finish (coordinator : ShutdownCoordinator) : ShutdownCoordinator :=
  { coordinator with status := .done }

/-- Drops every registration and makes the coordinator idle again. -/
def rearm (coordinator : ShutdownCoordinator) : ShutdownCoordinator :=
  { coordinator with status := .idle, containers := [], actions := [], postClose := [] }

/-- A container that was taken off is not registered any more, and all others are as before. -/
@[simp] theorem isRegistered_deregister (coordinator : ShutdownCoordinator)
    (container other : ContainerRef) :
    (coordinator.deregister container).isRegistered other =
      (coordinator.isRegistered other && other != container) := by
  by_cases same : other = container <;> simp [isRegistered, deregister, same]

/-- Once a shutdown has begun, nothing is accepted. -/
@[simp] theorem accepting_begin (coordinator : ShutdownCoordinator) :
    coordinator.begin.2.accepting = false := rfl

/-- A coordinator that was torn down accepts registrations again. -/
@[simp] theorem accepting_rearm (coordinator : ShutdownCoordinator) :
    coordinator.rearm.accepting = true := rfl

/-- An action that was removed does not wait any more, whether it did before or not. -/
@[simp] theorem hasAction_removeAction (coordinator : ShutdownCoordinator) (id : ActionId) :
    (coordinator.removeAction id).hasAction id = false := by
  simp [hasAction, removeAction]

/-- Only a shutdown that has begun makes a coordinator refuse containers. -/
theorem register_eq_refused_iff {coordinator : ShutdownCoordinator} {container : ContainerRef} :
    coordinator.register container = .refused ↔ coordinator.accepting = false := by
  unfold register
  cases coordinator.accepting <;> simp
  split <;> simp

/-- A container is added behind the others, once, while registrations are accepted. -/
theorem register_eq_added_iff {coordinator changed : ShutdownCoordinator}
    {container : ContainerRef} :
    coordinator.register container = .added changed ↔
      coordinator.accepting = true ∧ container ∉ coordinator.containers ∧
        changed = { coordinator with containers := coordinator.containers ++ [container] } := by
  unfold register isRegistered
  cases coordinator.accepting <;> by_cases known : container ∈ coordinator.containers <;>
    simp [known, eq_comm]

/-- A container that is registered is left as it is, while registrations are accepted. -/
theorem register_eq_present_iff {coordinator : ShutdownCoordinator} {container : ContainerRef} :
    coordinator.register container = .present ↔
      coordinator.accepting = true ∧ container ∈ coordinator.containers := by
  unfold register isRegistered
  cases coordinator.accepting <;> by_cases known : container ∈ coordinator.containers <;>
    simp [known]

/-- An action is added while registrations are accepted. -/
theorem addAction_eq_some_iff {coordinator changed : ShutdownCoordinator} {stage : ActionStage}
    {action : ShutdownAction} :
    coordinator.addAction stage action = some changed ↔
      coordinator.accepting = true ∧ changed = coordinator.putAction action stage := by
  unfold addAction
  cases coordinator.accepting <;> simp [eq_comm]

/-- Only a shutdown that has begun makes a coordinator refuse actions. -/
theorem addAction_eq_none_iff {coordinator : ShutdownCoordinator} {stage : ActionStage}
    {action : ShutdownAction} :
    coordinator.addAction stage action = none ↔ coordinator.accepting = false := by
  unfold addAction
  cases coordinator.accepting <;> simp

/-- The first trigger that has the lock takes every registration. -/
theorem enter_eq_begun_iff {coordinator begun : ShutdownCoordinator} {taken : Registrations} :
    coordinator.enter = .begun taken begun ↔
      coordinator.status = .idle ∧ taken = coordinator.begin.1 ∧ begun = coordinator.begin.2 := by
  unfold enter
  cases coordinator.status <;> simp [eq_comm]

/-- A trigger has to wait exactly while a shutdown is in progress. -/
theorem enter_eq_occupied_iff {coordinator : ShutdownCoordinator} :
    coordinator.enter = .occupied ↔ coordinator.status = .inProgress := by
  unfold enter
  cases coordinator.status <;> simp

/-- A trigger comes too late exactly when a shutdown was finished. -/
theorem enter_eq_finished_iff {coordinator : ShutdownCoordinator} :
    coordinator.enter = .finished ↔ coordinator.status = .done := by
  unfold enter
  cases coordinator.status <;> simp

end ShutdownCoordinator

end Launchpad
