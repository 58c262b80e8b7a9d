import Launchpad.Scenario.Container

/-!
# Scripts on shutdown coordinators

The steps of a shutdown script. Coordinators, containers and actions go by the names that the script
gives them; a coordinator is made when it is first named.
-/

namespace Launchpad.Scenario

/-- The name of the coordinator of a step that names none. -/
def mainCoordinator : String := "main"

/-- The key of a coordinator's name in a scope. -/
def coordinatorKey (scope name : String) : String := keyOf "coordinator" scope name

/-- The key of a container's name in a scope. -/
def containerKey (scope name : String) : String := keyOf "container" scope name

/-- The key of an action's name in a scope. -/
def actionKey (scope name : String) : String := keyOf "action" scope name

/-- Lets go of a coordinator. Everybody holds the shared one, so only others are dropped. -/
def release (ref : CoordinatorRef) : Program Unit := do
  if (← run .sharedCoordinator) ≠ ref then run (.dropCoordinator ref)

/-- The coordinator that a step is about. Some steps give its name to another one. -/
def coordinatorOf (scope : String) (step : Datum) : Program CoordinatorRef := do
  let key := coordinatorKey scope ((step.textAt? "on").getD mainCoordinator)
  let known ← rememberedNumber key
  let ref ← match step.textAt "do", known with
    | "hooked", _ => run (.makeCoordinator true)
    | "shared", _ => run .sharedCoordinator
    | _, some index => pure ⟨index⟩
    | _, none => run (.makeCoordinator false)
  if let some index := known then
    if index ≠ ref.index then release ⟨index⟩
  run (.remember key ref.index)
  return ref

/-- Forgets the coordinator of a step. -/
def dropCoordinator (scope : String) (step : Datum) (ref : CoordinatorRef) : Program Unit := do
  release ref
  run (.remember (coordinatorKey scope ((step.textAt? "on").getD mainCoordinator)) .nothing)

/-- The container that a step names. -/
def containerOf (scope : String) (step : Datum) : Attempt Held := do
  match ← rememberedNumber (containerKey scope (step.textAt "ctx")) with
  | some index => return { ref := ⟨index⟩, made := true }
  | none => throw (.text "no such context")

/-- Adds an action that follows the step in its scope. -/
def addAction (scope : String) (ref : CoordinatorRef) (stage : ActionStage) (step : Datum) :
    Attempt Datum := do
  let action := script step [("scope", scope)]
  let id ← need (run (.addAction ref stage (step.textAt "name") action))
  run (.remember (actionKey scope (step.textAt "as")) id.number)
  return id.inspected

/-- Triggers a coordinator several times, each time as another caller would; the answer is how many
of them ran the shutdown. -/
def race (ref : CoordinatorRef) : Nat → Program Nat
  | 0 => return 0
  | callers + 1 => do
    match ← run (.attemptTrigger ref) with
    | .ok true => return (← race ref callers) + 1
    | _ => race ref callers

/-- Triggers a coordinator. An action that throws is shown, and does not end the script. -/
def trigger (ref : CoordinatorRef) : Program Datum := do
  match ← run (.attemptTrigger ref) with
  | .ok ran => return ran
  | .error message => return panicked message

/-- Takes a step of a shutdown script in its scope. -/
def shutdownStep (scope : String) (step : Datum) : Attempt Datum := do
  let ref ← coordinatorOf scope step
  let label := step.textAt "as"
  match step.textAt "do" with
  | "hooked" | "shared" => shown (pure ())
  | "ctx" =>
    let made := (← makeContainerAt step "spec").ref
    if step.flagAt "refresh" then need (run (.refresh made))
    run (.remember (containerKey scope label) made.index)
    shown (containerId made)
  | "in" => containerStep (← containerOf scope step) (step.field "step")
  | "register" =>
    shown (need (run (.registerContainer ref (← containerOf scope step).ref)))
  | "deregister" => shown (run (.deregisterContainer ref (← containerOf scope step).ref))
  | "registered" =>
    let held ← containerOf scope step
    return (← run (.coordinator ref)).isRegistered held.ref
  | "drop" =>
    dropCoordinator scope step ref
    return true
  | "action" => addAction scope ref .shutdown step
  | "post_action" => addAction scope ref .postClose step
  | "remove" =>
    match ← rememberedNumber (actionKey scope label) with
    | none => throw (.text "no such action")
    | some number => shown (run (.removeAction ref ⟨number⟩))
  | "triggered" => return (← run (.coordinator ref)).isTriggered
  | "trigger" => trigger ref
  | "race" => shown (race ref (step.natAt "threads"))
  | "teardown" => shown (run (.teardown ref))
  | _ => return .nothing

/-- Ends a scope: nobody holds the coordinators any more that it named, but for the shared one. -/
def endScope (scope : String) : Act Unit := do
  let world ← get
  let start := (coordinatorKey scope "").toList
  Act.forEach (fun entry =>
    match entry.2 with
    | .number index =>
      if start.isPrefixOf entry.1.toList && world.sharedCoordinator ≠ some ⟨index.toNat⟩ then
        ShutdownCoordinator.drop ⟨index.toNat⟩
      else pure ()
    | _ => pure ()) world.memory

/-- Takes steps of a shutdown script in its scope, with a remark on each; a step that fails does not
end the script. -/
def shutdownSteps (scope : String) : List Datum → Program Unit
  | [] => return ()
  | step :: rest => do
    let result ← (shutdownStep scope step).run
    say ["step", step.textAt "do", result]
    shutdownSteps scope rest

end Launchpad.Scenario
