import Launchpad.Greeting.Behaviour

/-!
# The command line of the greeting application

The application is run with the arguments of the process. If it comes up, the transcript is printed
and the application ends gracefully; otherwise its exit code is that of the failure, but never zero.
-/

namespace Launchpad.Greeting

/-- How deeply calls may be nested. -/
def callLimit : Nat := 64

/-- Runs the greeting application; the answer is the exit code of the process. -/
def runCommandLine (given : List String) : Act ExitCode := do
  let invoke := behaviour.invoker callLimit 0
  let coordinator ← ShutdownCoordinator.shared
  let outcome ← (application coordinator).run invoke given
  match outcome.result with
  | .error error =>
    let code := error.failure.exitCode
    return if code ≠ 0 then code else 1
  | .ok container =>
    Act.forEach (fun line => Act.print (line ++ "\n")) (linesOf (← get))
    Act.log .info "Application completed successfully"
    Container.exit invoke container []

/-- What a process shows of a run of the command line. -/
structure ProcessOutcome where
  exitCode : ExitCode
  console : String

/-- The command line as a process with the given variables and files. -/
def process (vars : List (String × String)) (files : Files) (given : List String) :
    ProcessOutcome :=
  let (result, world) := (runCommandLine given).run.run { vars, files }
  { exitCode := match result with
      | .ok code => code
      | .error _ => 101
    console := world.console }

/-- The banner file that a run of the command line would read, if it names one. -/
def bannerFile (vars : List (String × String)) (given : List String) : Option String :=
  match Arguments.parse given with
  | .error _ => none
  | .ok arguments =>
    let described := application ⟨0⟩
    let environment := described.configureEnvironment described.settings arguments
      (described.initialEnvironment described.settings vars)
    environment.get? Banner.locationProperty

end Launchpad.Greeting
