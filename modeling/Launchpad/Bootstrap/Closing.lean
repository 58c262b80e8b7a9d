import Launchpad.Launch.Plan

/-!
# Closing bootstrap stores

A store is closed by a plan, so that every close action is an errand of its own.
-/

namespace Launchpad

namespace BootstrapStore

/-- Closes an open store and runs its close actions in the order of registration, up to the first
that fails. -/
def close (store : StoreRef) (container : ContainerRef) : Plan (Except BootstrapError Unit) := do
  match ← Plan.ask (.beginCloseStore store) with
  | .error fault => return .error { fault }
  | .ok actions =>
    match ← untilFailure (fun action => Plan.ask (.runCloseAction store container action))
        actions with
    | .ok () => return .ok ()
    | .error failure =>
      Plan.ask (.log .warn "Bootstrap close listener failed" [("error", failure.message)])
      return .error (BootstrapFault.closeListener.dueTo failure)

end BootstrapStore

end Launchpad
