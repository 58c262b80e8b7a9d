import Launchpad.Handle
import Launchpad.Participant

/-!
# Startup measurements

A run reports each lifecycle phase and each container refresh as a step with a name and tags. Steps
go nowhere, into a buffer in the order in which they end, or to a participant that watches them.
-/

namespace Launchpad

/-- Where the steps of a launch are reported. -/
inductive Startup where
  /-- Steps are not kept. -/
  | discarded
  | buffered (buffer : BufferRef)
  /-- The named participant is told about every step. -/
  | watched (participant : Participant)
  deriving DecidableEq, Repr, Inhabited

/-- A step with the tags it has so far. -/
structure StartupStep where
  name : String
  tags : List (String × String) := []
  deriving DecidableEq, Repr, Inhabited

/-- The step with one more tag, behind those it has. -/
def StartupStep.tag (step : StartupStep) (key text : String) : StartupStep :=
  { step with tags := step.tags ++ [(key, text)] }

/-- What a watching participant is told. -/
inductive StartupNotice where
  | begun (step : StartupStep)
  | tagged (step : StartupStep)
  | ended (step : StartupStep)
  deriving DecidableEq, Repr

end Launchpad
