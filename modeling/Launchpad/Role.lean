import Launchpad.Kind
import Launchpad.Participant
import Launchpad.Precedence

/-!
# Roles of participants

What the library keeps of a listener, an initializer, a reporter or a runner beside the participant:
its rank, and what it is checked for. Runners are called by precedence, each instance once.
-/

namespace Launchpad

/-- A receiver of application events. -/
structure ApplicationListener where
  participant : Participant
  order : Order := none
  deriving DecidableEq, Repr

/-- A participant that is applied to a container before any source is loaded. -/
structure ContextInitializer where
  participant : Participant
  /-- The name used in messages. -/
  name : String
  order : Order := none
  /-- The only kind of container it can work with; without one it accepts any. -/
  requiredKind : Option ApplicationKind := none
  deriving DecidableEq, Repr

/-- How a reporter decides whether it reports a failure. -/
inductive Reporting where
  /-- The same answer for every failure. -/
  | fixed (claims : Bool)
  | custom (participant : Participant)
  deriving DecidableEq, Repr

/-- A participant that presents the failure of a run. -/
structure ExceptionReporter where
  name : String
  order : Order := none
  reporting : Reporting
  deriving DecidableEq, Repr

/-- What a runner is given. -/
inductive RunnerKind where
  /-- The parsed arguments. -/
  | application
  /-- The arguments as given. -/
  | commandLine
  deriving DecidableEq, Repr

/-- The name of a kind of runner in messages. -/
def RunnerKind.name : RunnerKind → String
  | application => "ApplicationRunner"
  | commandLine => "CommandLineRunner"

/-- A participant that is called once the container is refreshed. Two runners are the same instance
exactly if they are of one kind and have the same participant. -/
structure Runner where
  kind : RunnerKind
  participant : Participant
  order : Order := none
  deriving DecidableEq, Repr

/-- What tells instances of runners apart. -/
def Runner.identity (runner : Runner) : RunnerKind × Participant :=
  (runner.kind, runner.participant)

/-- The runners without those whose identity occurred before. -/
def Runner.distinct (runners : List Runner) : List Runner :=
  runners.foldl (fun kept runner =>
    if kept.any (·.identity = runner.identity) then kept else kept ++ [runner]) []

/-- The runners in the order in which they are called: by precedence, each instance once. -/
def Runner.ordered (runners : List Runner) : List Runner :=
  Runner.distinct (byPrecedence Runner.order runners)

end Launchpad
