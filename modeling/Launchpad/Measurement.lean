import Launchpad.World

/-!
# Measuring a launch

Reporting steps to the startup of a run or a container. A step is reported when it ends; a watching
participant is also told when it begins and when it gets a tag.
-/

namespace Launchpad.Startup

/-- Begins a step. -/
def begin (invoke : Invoker) (startup : Startup) (name : String) : Act StartupStep := do
  let step : StartupStep := { name }
  if let .watched participant := startup then
    invoke (.startupNotice participant (.begun step))
  return step

/-- Gives a step a tag. -/
def tag (invoke : Invoker) (startup : Startup) (step : StartupStep) (key text : String) :
    Act StartupStep := do
  let step := step.tag key text
  if let .watched participant := startup then
    invoke (.startupNotice participant (.tagged step))
  return step

/-- Ends a step, which reports it. -/
def finish (invoke : Invoker) (startup : Startup) (step : StartupStep) : Act Unit :=
  match startup with
  | .discarded => return ()
  | .buffered buffer => modify (·.modifyBuffer buffer (· ++ [step]))
  | .watched participant => invoke (.startupNotice participant (.ended step))

/-- Makes an empty buffer. -/
def makeBuffer : Act BufferRef := do
  let world ← get
  set { world with buffers := world.buffers ++ [[]] }
  return ⟨world.buffers.length⟩

/-- The steps in a buffer, in the order in which they ended. -/
def stepsIn (buffer : BufferRef) : Act (List StartupStep) := return (← get).buffer buffer

/-- Takes the steps out of a buffer. -/
def drain (buffer : BufferRef) : Act (List StartupStep) := do
  let steps ← stepsIn buffer
  modify (·.modifyBuffer buffer fun _ => [])
  return steps

end Launchpad.Startup
