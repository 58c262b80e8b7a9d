import Launchpad.Container.Operations

/-!
# Exit codes of failures and of a graceful end

The mappers of an active container are asked first; if they have no opinion, the outermost exit code
in the failure's chain counts. A graceful end combines the codes of the caller and of the container,
announces the result unless it is zero, and closes the container.
-/

namespace Launchpad.Container

/-- The code that the mappers combine to for a failure. -/
def mappedCode (invoke : Invoker) (mappers : List Participant) (failure : Failure) :
    Act ExitCode := do
  return ExitCode.combine (← mappers.mapM fun mapper => invoke (.mapFailure mapper failure))

/-- The exit code of a failure. Mappers count only while their container is active. -/
def resolveExitCode (invoke : Invoker) (container : Option ContainerRef) (failure : Failure) :
    Act ExitCode := do
  let mappers ← match container with
    | none => pure []
    | some ref => do
      let container ← Act.container ref
      pure (if container.isActive then container.mappers else [])
  let mapped ← mappedCode invoke mappers failure
  return if mapped ≠ 0 then mapped else failure.exitCode?.getD 0

/-- Ends an application with an exit code: the code is announced unless it is zero, and the
container is closed whatever comes of that. If either of them fails, the code is not zero. -/
def exitWith (invoke : Invoker) (ref : ContainerRef) (code : ExitCode) : Act ExitCode := do
  let container ← Act.container ref
  let published ←
    if code ≠ 0 then publish invoke ref (.exitCode code) else pure (.ok ())
  conclude container published
where
  /-- Closes the container; the code counts if it was announced and the container is closed. -/
  conclude (container : Container) (published : Except Failure Unit) : Act ExitCode := do
    match published, ← close invoke ref with
    | .ok (), .ok () => return code
    | .error failure, _ => unclean container failure
    | .ok (), .error failure => unclean container failure
  /-- Logs the failure; the code is not zero. -/
  unclean (container : Container) (failure : Failure) : Act ExitCode := do
    Act.log .error "Failed to exit cleanly" [
      ("context", container.id), ("error", failure.message)]
    return if code ≠ 0 then code else 1

/-- Ends an application gracefully, with the code that the caller and the container offer. -/
def exit (invoke : Invoker) (ref : ContainerRef) (codes : List ExitCode) : Act ExitCode := do
  let container ← Act.container ref
  exitWith invoke ref (ExitCode.combine (codes ++ container.generators))

end Launchpad.Container
