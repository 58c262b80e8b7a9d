import Launchpad.Call
import Launchpad.Container.Basic
import Launchpad.Failure.Message
import Launchpad.Files
import Launchpad.Log
import Launchpad.Shutdown.Basic

/-!
# The state of a launch

`World` is everything that outlives a single operation: the containers, stores and coordinators that
were made, the surroundings of the process, and what was recorded. The record of calls (`journal`),
the remarks of participants, the log and the console only ever grow.
-/

namespace Launchpad

/-- One line of the record of calls. The depth tells how many other calls were under way. -/
inductive JournalEntry where
  | called (depth : Nat) (call : Call)
  | answered (depth : Nat) (failure : Option Failure)

/-- The state of a process that launches applications. -/
structure World where
  containers : List Container := []
  stores : List BootstrapStore := []
  coordinators : List ShutdownCoordinator := []
  /-- Buffers of startup measurements. -/
  buffers : List (List StartupStep) := []
  /-- The phases that recording listeners saw. -/
  phaseLog : List LifecyclePhase := []
  /-- Coordinators that a signal triggers, in the order of their first registration. -/
  hooked : List CoordinatorRef := []
  /-- The coordinator of the whole process, once somebody asked for it. -/
  sharedCoordinator : Option CoordinatorRef := none
  /-- The headless flag of the process, once a run has set it. -/
  headless : Option Bool := none
  /-- The variables of the process. -/
  vars : List (String × String) := []
  files : Files := []
  /-- The number in the next container identifier. -/
  nextContainer : Nat := 1
  /-- The identity of the next instance in a bootstrap store. -/
  nextInstance : Nat := 0
  /-- What participants remember from one call to the next. -/
  memory : List (String × Datum) := []
  journal : Array JournalEntry := #[]
  remarks : Array Datum := #[]
  log : Array LogRecord := #[]
  console : String := ""

namespace World

/-- The container of a handle. -/
def container (world : World) (ref : ContainerRef) : Container :=
  world.containers[ref.index]?.getD default

/-- The bootstrap store of a handle. -/
def store (world : World) (ref : StoreRef) : BootstrapStore :=
  world.stores[ref.index]?.getD default

/-- The coordinator of a handle. -/
def coordinator (world : World) (ref : CoordinatorRef) : ShutdownCoordinator :=
  world.coordinators[ref.index]?.getD default

/-- The steps in the buffer of a handle. -/
def buffer (world : World) (ref : BufferRef) : List StartupStep :=
  world.buffers[ref.index]?.getD []

/-- Changes the container of a handle. -/
def modifyContainer (world : World) (ref : ContainerRef) (change : Container → Container) : World :=
  { world with containers := world.containers.modify ref.index change }

/-- Changes the bootstrap store of a handle. -/
def modifyStore (world : World) (ref : StoreRef) (change : BootstrapStore → BootstrapStore) :
    World :=
  { world with stores := world.stores.modify ref.index change }

/-- Changes the coordinator of a handle. -/
def modifyCoordinator (world : World) (ref : CoordinatorRef)
    (change : ShutdownCoordinator → ShutdownCoordinator) : World :=
  { world with coordinators := world.coordinators.modify ref.index change }

/-- Changes the steps in the buffer of a handle. -/
def modifyBuffer (world : World) (ref : BufferRef)
    (change : List StartupStep → List StartupStep) : World :=
  { world with buffers := world.buffers.modify ref.index change }

/-- A container that was not made is an empty one. -/
theorem container_of_unmade {world : World} {ref : ContainerRef}
    (unmade : ¬ ref.index < world.containers.length) : world.container ref = default := by
  rw [container, List.getElem?_eq_none (Nat.le_of_not_lt unmade)]
  rfl

theorem container_congr {before after : World} (same : after.containers = before.containers)
    (ref : ContainerRef) : after.container ref = before.container ref := by
  rw [container, container, same]

/-- Containers that are made later stand behind those that there are. -/
theorem container_of_append {before after : World} {ref : ContainerRef} {made : List Container}
    (added : after.containers = before.containers ++ made)
    (there : ref.index < before.containers.length) :
    after.container ref = before.container ref := by
  rw [container, container, added, List.getElem?_append_left there]

@[simp] theorem container_modifyContainer_self (world : World) (ref : ContainerRef)
    (change : Container → Container) (made : ref.index < world.containers.length) :
    (world.modifyContainer ref change).container ref = change (world.container ref) := by
  simp [modifyContainer, container, List.getElem?_eq_getElem made]

theorem container_modifyContainer_of_ne {world : World} {ref other : ContainerRef}
    (different : other ≠ ref) (change : Container → Container) :
    (world.modifyContainer ref change).container other = world.container other := by
  have index : ref.index ≠ other.index :=
    fun same => different (by cases ref; cases other; simp_all)
  simp [modifyContainer, container, index]

@[simp] theorem store_modifyContainer (world : World) (ref : ContainerRef)
    (change : Container → Container) (held : StoreRef) :
    (world.modifyContainer ref change).store held = world.store held := rfl

@[simp] theorem coordinator_modifyContainer (world : World) (ref : ContainerRef)
    (change : Container → Container) (held : CoordinatorRef) :
    (world.modifyContainer ref change).coordinator held = world.coordinator held := rfl

@[simp] theorem container_modifyCoordinator (world : World) (ref : CoordinatorRef)
    (change : ShutdownCoordinator → ShutdownCoordinator) (held : ContainerRef) :
    (world.modifyCoordinator ref change).container held = world.container held := rfl

@[simp] theorem container_modifyStore (world : World) (ref : StoreRef)
    (change : BootstrapStore → BootstrapStore) (held : ContainerRef) :
    (world.modifyStore ref change).container held = world.container held := rfl

@[simp] theorem store_modifyStore_self (world : World) (ref : StoreRef)
    (change : BootstrapStore → BootstrapStore) (made : ref.index < world.stores.length) :
    (world.modifyStore ref change).store ref = change (world.store ref) := by
  simp [modifyStore, store, List.getElem?_eq_getElem made]

@[simp] theorem coordinator_modifyCoordinator_self (world : World) (ref : CoordinatorRef)
    (change : ShutdownCoordinator → ShutdownCoordinator)
    (made : ref.index < world.coordinators.length) :
    (world.modifyCoordinator ref change).coordinator ref = change (world.coordinator ref) := by
  simp [modifyCoordinator, coordinator, List.getElem?_eq_getElem made]

theorem coordinator_modifyCoordinator_of_ne {world : World} {ref other : CoordinatorRef}
    (different : other ≠ ref) (change : ShutdownCoordinator → ShutdownCoordinator) :
    (world.modifyCoordinator ref change).coordinator other = world.coordinator other := by
  have index : ref.index ≠ other.index :=
    fun same => different (by cases ref; cases other; simp_all)
  simp [modifyCoordinator, coordinator, index]

end World

/-- Why an operation did not come to an end. -/
inductive Abort where
  /-- A shutdown action threw. -/
  | panicked (message : String)
  /-- The nesting of calls exceeded the limit of the evaluation. -/
  | exhausted
  /-- A shutdown was asked to wait for itself. -/
  | deadlocked
  deriving DecidableEq, Repr

/-- An operation on the world. An operation that does not come to an end keeps what it did so
far. -/
abbrev Act := ExceptT Abort (StateM World)

/-- What carries out the calls to participants. -/
abbrev Invoker := (call : Call) → Act call.Answer

/-- Calls the items in order, up to the first failure. -/
def untilFailure {m : Type → Type} [Monad m] {α ε : Type} (call : α → m (Except ε Unit)) :
    List α → m (Except ε Unit)
  | [] => return .ok ()
  | item :: rest => do
    match ← call item with
    | .error failure => return .error failure
    | .ok () => untilFailure call rest

namespace Act

/-- Adds a record to the log. -/
def log (level : LogLevel) (message : String) (fields : List (String × String) := []) : Act Unit :=
  modify fun world => { world with log := world.log.push { level, message, fields } }

/-- Prints on the console. -/
def print (text : String) : Act Unit :=
  modify fun world => { world with console := world.console ++ text }

/-- The container of a handle. -/
def container (ref : ContainerRef) : Act Container := return (← get).container ref

/-- The bootstrap store of a handle. -/
def store (ref : StoreRef) : Act BootstrapStore := return (← get).store ref

/-- The coordinator of a handle. -/
def coordinator (ref : CoordinatorRef) : Act ShutdownCoordinator := return (← get).coordinator ref

/-- Changes the container of a handle. -/
def modifyContainer (ref : ContainerRef) (change : Container → Container) : Act Unit :=
  modify (·.modifyContainer ref change)

/-- Changes the bootstrap store of a handle. -/
def modifyStore (ref : StoreRef) (change : BootstrapStore → BootstrapStore) : Act Unit :=
  modify (·.modifyStore ref change)

/-- Changes the coordinator of a handle. -/
def modifyCoordinator (ref : CoordinatorRef)
    (change : ShutdownCoordinator → ShutdownCoordinator) : Act Unit :=
  modify (·.modifyCoordinator ref change)

/-- Calls every item in order. -/
def forEach {α : Type} (call : α → Act Unit) : List α → Act Unit
  | [] => return ()
  | item :: rest => do
    call item
    forEach call rest

end Act

end Launchpad
