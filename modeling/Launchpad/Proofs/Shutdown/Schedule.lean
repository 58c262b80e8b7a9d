import Launchpad.Failure.Basic
import Launchpad.Shutdown.Basic
import Mathlib.Data.List.Induction
import Mathlib.Logic.Function.Basic

/-!
# Schedules of a shutdown coordinator

Any number of callers operate one coordinator at the same time. What they can observe of each other
is the order in which their sections under the lock, the things a shutdown does, and the sleeping
and waking of triggers take place. `Step` is one of these events and `Runs` is every order of them
from a new coordinator, without a teardown. Callers are told apart by a number for every call of
`trigger`; the other operations come from anywhere, also from a container that is being closed or an
action that is being run.
-/

namespace Launchpad.ShutdownCoordinator

/-- How far a call of `trigger` has come. -/
inductive Progress where
  | absent
  /-- On its way to the lock. -/
  | arrived
  /-- Waiting for the end of the shutdown of another call. -/
  | asleep
  /-- About to do the rest of the work it took. -/
  | working (rest : List ShutdownWork)
  /-- In the middle of one thing. -/
  | busy (work : ShutdownWork) (rest : List ShutdownWork)
  /-- Ended by a thing that threw. -/
  | unwinding
  /-- The shutdown is marked as finished, and nobody was woken yet. -/
  | leaving (completed : Bool)
  | returned (answer : Bool)
  | thrown
  deriving DecidableEq, Repr

/-- Something that happens to a coordinator. -/
inductive Event where
  | registered (container : ContainerRef)
  /-- The container was registered before. -/
  | reregistered (container : ContainerRef)
  | registrationRefused (container : ContainerRef)
  | deregistered (container : ContainerRef)
  | numbered (id : ActionId)
  | added (stage : ActionStage) (action : ShutdownAction)
  | additionRefused (stage : ActionStage) (action : ShutdownAction)
  | removed (id : ActionId)
  | called (call : Nat)
  /-- A call begins the shutdown and takes every registration. -/
  | took (call : Nat) (taken : Registrations)
  | slept (call : Nat)
  | woke (call : Nat)
  /-- A container is told to close, or an action to run. -/
  | began (call : Nat) (work : ShutdownWork)
  /-- It came back; a container may report a failure. -/
  | ended (call : Nat) (failure : Option Failure)
  | threw (call : Nat) (work : ShutdownWork)
  /-- The shutdown is marked as finished. -/
  | finished (call : Nat)
  | returned (call : Nat) (answer : Bool)
  /-- A call ends by throwing on what a thing threw. -/
  | rethrew (call : Nat)
  deriving DecidableEq, Repr

/-- A coordinator together with the operations under way. -/
structure System where
  coordinator : ShutdownCoordinator
  /-- Numbers that were taken for actions and not used yet. -/
  numbers : List ActionId := []
  calls : Nat → Progress := fun _ => .absent

namespace System

/-- Moves a call on. -/
def move (system : System) (call : Nat) (progress : Progress) : System :=
  { system with calls := Function.update system.calls call progress }

/-- Changes the coordinator. -/
def change (system : System) (coordinator : ShutdownCoordinator) : System :=
  { system with coordinator }

/-- Changes the numbers that are taken and not used yet. -/
def keep (system : System) (numbers : List ActionId) : System := { system with numbers }

/-- Wakes every sleeping call. -/
def wakeAll (system : System) : System :=
  { system with
    calls := fun call => if system.calls call = .asleep then .arrived else system.calls call }

@[simp] theorem coordinator_move (system : System) (call : Nat) (progress : Progress) :
    (system.move call progress).coordinator = system.coordinator := rfl

@[simp] theorem numbers_move (system : System) (call : Nat) (progress : Progress) :
    (system.move call progress).numbers = system.numbers := rfl

/-- A call that is moved on is where it was moved to. -/
@[simp] theorem calls_move_self (system : System) (call : Nat) (progress : Progress) :
    (system.move call progress).calls call = progress := by
  simp [move]

/-- Moving one call on leaves every other where it is. -/
@[simp] theorem calls_move_of_ne (system : System) {call other : Nat} (progress : Progress)
    (different : other ≠ call) : (system.move call progress).calls other = system.calls other := by
  simp [move, different]

@[simp] theorem coordinator_change (system : System) (coordinator : ShutdownCoordinator) :
    (system.change coordinator).coordinator = coordinator := rfl

@[simp] theorem numbers_change (system : System) (coordinator : ShutdownCoordinator) :
    (system.change coordinator).numbers = system.numbers := rfl

@[simp] theorem calls_change (system : System) (coordinator : ShutdownCoordinator) :
    (system.change coordinator).calls = system.calls := rfl

@[simp] theorem coordinator_keep (system : System) (numbers : List ActionId) :
    (system.keep numbers).coordinator = system.coordinator := rfl

@[simp] theorem numbers_keep (system : System) (numbers : List ActionId) :
    (system.keep numbers).numbers = numbers := rfl

@[simp] theorem calls_keep (system : System) (numbers : List ActionId) :
    (system.keep numbers).calls = system.calls := rfl

@[simp] theorem coordinator_wakeAll (system : System) :
    system.wakeAll.coordinator = system.coordinator := rfl

@[simp] theorem numbers_wakeAll (system : System) : system.wakeAll.numbers = system.numbers := rfl

/-- Waking moves no other call than the sleeping ones. -/
theorem calls_wakeAll_of_ne {system : System} {call : Nat} (awake : system.calls call ≠ .asleep) :
    system.wakeAll.calls call = system.calls call := by
  simp [wakeAll, awake]

/-- Nobody is asleep afterwards. -/
theorem calls_wakeAll_ne (system : System) (call : Nat) : system.wakeAll.calls call ≠ .asleep := by
  unfold wakeAll
  by_cases asleep : system.calls call = .asleep
  · simp [asleep]
  · simp [asleep]

end System

/-- One event, as the sections of the operations allow it. A call that sleeps may wake at any time;
it looks at the status again. -/
inductive Step : System → Event → System → Prop where
  | registered {system container coordinator}
      (accepted : system.coordinator.register container = .added coordinator) :
      Step system (.registered container) (system.change coordinator)
  | reregistered {system container}
      (present : system.coordinator.register container = .present) :
      Step system (.reregistered container) system
  | registrationRefused {system container}
      (refused : system.coordinator.register container = .refused) :
      Step system (.registrationRefused container) system
  | deregistered {system container} :
      Step system (.deregistered container)
        (system.change (system.coordinator.deregister container))
  | numbered {system id coordinator}
      (taken : system.coordinator.takeNumber = (id, coordinator)) :
      Step system (.numbered id)
        ((system.change coordinator).keep (id :: system.numbers))
  | added {system stage action coordinator} (numbered : action.id ∈ system.numbers)
      (accepted : system.coordinator.addAction stage action = some coordinator) :
      Step system (.added stage action)
        ((system.change coordinator).keep (system.numbers.erase action.id))
  | additionRefused {system stage action} (numbered : action.id ∈ system.numbers)
      (refused : system.coordinator.addAction stage action = none) :
      Step system (.additionRefused stage action)
        (system.keep (system.numbers.erase action.id))
  | removed {system id} :
      Step system (.removed id) (system.change (system.coordinator.removeAction id))
  | called {system call} (absent : system.calls call = .absent) :
      Step system (.called call) (system.move call .arrived)
  | took {system call taken coordinator} (arrived : system.calls call = .arrived)
      (idle : system.coordinator.enter = .begun taken coordinator) :
      Step system (.took call taken) ((system.change coordinator).move call (.working taken.work))
  | slept {system call} (arrived : system.calls call = .arrived)
      (occupied : system.coordinator.enter = .occupied) :
      Step system (.slept call) (system.move call .asleep)
  | woke {system call} (asleep : system.calls call = .asleep) :
      Step system (.woke call) (system.move call .arrived)
  | late {system call} (arrived : system.calls call = .arrived)
      (done : system.coordinator.enter = .finished) :
      Step system (.returned call false) (system.move call (.returned false))
  | began {system call work rest} (working : system.calls call = .working (work :: rest)) :
      Step system (.began call work) (system.move call (.busy work rest))
  | ended {system call work rest failure} (busy : system.calls call = .busy work rest) :
      Step system (.ended call failure) (system.move call (.working rest))
  | threw {system call work rest} (busy : system.calls call = .busy work rest) :
      Step system (.threw call work) (system.move call .unwinding)
  | finished {system call} (idle : system.calls call = .working []) :
      Step system (.finished call)
        ((system.change system.coordinator.finish).move call (.leaving true))
  | unwound {system call} (unwinding : system.calls call = .unwinding) :
      Step system (.finished call)
        ((system.change system.coordinator.finish).move call (.leaving false))
  | returned {system call} (leaving : system.calls call = .leaving true) :
      Step system (.returned call true) (system.wakeAll.move call (.returned true))
  | rethrew {system call} (leaving : system.calls call = .leaving false) :
      Step system (.rethrew call) (system.wakeAll.move call .thrown)

/-- What can happen to a new coordinator, and where it leads. -/
inductive Runs : List Event → System → Prop where
  | initial (signalHook : Bool) : Runs [] { coordinator := { signalHook } }
  | step {events system event next} (prior : Runs events system) (taken : Step system event next) :
      Runs (events ++ [event]) next

/-- Events one after the other. -/
inductive Steps : System → List Event → System → Prop where
  | nil {system} : Steps system [] system
  | cons {system event next events final} (taken : Step system event next)
      (rest : Steps next events final) : Steps system (event :: events) final

/-- Events that follow each other can be read as one sequence. -/
theorem Steps.append {system next final : System} {events later : List Event}
    (steps : Steps system events next) (rest : Steps next later final) :
    Steps system (events ++ later) final := by
  induction steps with
  | nil => exact rest
  | cons taken _ ih => exact .cons taken (ih rest)

/-- A run goes on with whatever can happen next. -/
theorem Runs.append {events later : List Event} {system final : System}
    (runs : Runs events system) (steps : Steps system later final) :
    Runs (events ++ later) final := by
  induction steps generalizing events with
  | nil => simpa using runs
  | cons taken _ ih =>
    rw [List.append_cons]
    exact ih (runs.step taken)

/-- The last event of a run. -/
theorem Runs.of_append_singleton {before : List Event} {event : Event} {final : System}
    (runs : Runs (before ++ [event]) final) :
    ∃ system, Runs before system ∧ Step system event final := by
  generalize all : before ++ [event] = events at runs
  cases runs with
  | initial => simp at all
  | step prior taken =>
    obtain ⟨rfl, rfl⟩ := List.append_singleton_inj.1 all
    exact ⟨_, prior, taken⟩

/-- What happened earlier in a run is a run. -/
theorem Runs.of_append {before after : List Event} {final : System}
    (runs : Runs (before ++ after) final) : ∃ system, Runs before system := by
  induction after using List.reverseRecOn generalizing final with
  | nil => exact ⟨final, by simpa using runs⟩
  | append_singleton after last ih =>
    rw [← List.append_assoc] at runs
    obtain ⟨system, prior, -⟩ := runs.of_append_singleton
    exact ih prior

/-- Every event of a run happens in a state that was reached by what happened earlier. -/
theorem Runs.at_event {before after : List Event} {event : Event} {final : System}
    (runs : Runs (before ++ event :: after) final) :
    ∃ system next, Runs before system ∧ Step system event next := by
  rw [List.append_cons] at runs
  obtain ⟨next, earlier⟩ := runs.of_append
  obtain ⟨system, prior, taken⟩ := earlier.of_append_singleton
  exact ⟨system, next, prior, taken⟩

end Launchpad.ShutdownCoordinator
