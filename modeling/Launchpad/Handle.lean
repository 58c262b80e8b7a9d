/-!
# Handles

Whatever outlives a single operation is kept in the state of a launch and known by a handle.
-/

namespace Launchpad

/-- A handle to a container. -/
structure ContainerRef where
  index : Nat
  deriving DecidableEq, Repr, Inhabited

/-- A handle to a bootstrap store. -/
structure StoreRef where
  index : Nat
  deriving DecidableEq, Repr, Inhabited

/-- A handle to a shutdown coordinator. -/
structure CoordinatorRef where
  index : Nat
  deriving DecidableEq, Repr, Inhabited

/-- A handle to a buffer of startup measurements. -/
structure BufferRef where
  index : Nat
  deriving DecidableEq, Repr, Inhabited

end Launchpad
