/-!
# Lifecycle phases

A run moves strictly forward through six phases; `failed` may follow any phase but itself, and
nothing follows it. `LifecyclePhase.canFollow` is the only authority on that order.
-/

namespace Launchpad

/-- A phase of the run lifecycle. -/
inductive LifecyclePhase where
  | starting
  | environmentPrepared
  | contextPrepared
  | contextLoaded
  | started
  | running
  | failed
  deriving DecidableEq, Repr

namespace LifecyclePhase

/-- Every phase, in the order of a run, `failed` last. -/
def all : List LifecyclePhase :=
  [starting, environmentPrepared, contextPrepared, contextLoaded, started, running, failed]

/-- The name of a phase in messages. -/
def name : LifecyclePhase → String
  | starting => "starting"
  | environmentPrepared => "environmentPrepared"
  | contextPrepared => "contextPrepared"
  | contextLoaded => "contextLoaded"
  | started => "started"
  | running => "running"
  | failed => "failed"

/-- The phase of a name. -/
def ofName? (text : String) : Option LifecyclePhase := all.find? (·.name = text)

@[simp] theorem ofName?_name (phase : LifecyclePhase) : ofName? phase.name = some phase := by
  cases phase <;> decide

/-- The inspection text of a phase. -/
def inspected : LifecyclePhase → String
  | starting => "Starting"
  | environmentPrepared => "EnvironmentPrepared"
  | contextPrepared => "ContextPrepared"
  | contextLoaded => "ContextLoaded"
  | started => "Started"
  | running => "Running"
  | failed => "Failed"

/-- The label of a phase in startup measurements. -/
def stepName : LifecyclePhase → String
  | starting => "liftoff.application.starting"
  | environmentPrepared => "liftoff.application.environment-prepared"
  | contextPrepared => "liftoff.application.context-prepared"
  | contextLoaded => "liftoff.application.context-loaded"
  | started => "liftoff.application.started"
  | running => "liftoff.application.running"
  | failed => "liftoff.application.failed"

/-- Whether `phase` may be entered right after `previous`, where `none` stands for a bus that has
dispatched nothing yet. -/
def canFollow (phase : LifecyclePhase) (previous : Option LifecyclePhase) : Bool :=
  match previous, phase with
  | none, starting => true
  | some failed, _ => false
  | some _, failed => true
  | some starting, environmentPrepared => true
  | some environmentPrepared, contextPrepared => true
  | some contextPrepared, contextLoaded => true
  | some contextLoaded, started => true
  | some started, running => true
  | _, _ => false

end LifecyclePhase

end Launchpad
