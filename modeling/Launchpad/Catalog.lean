import Launchpad.Failure.Basic
import Launchpad.Role
import Launchpad.Phase

/-!
# The catalog of participants

For each capability the catalog holds named factories in the order of their declaration. Asking for
a capability builds a fresh instance from every factory and sorts the instances by precedence; the
first factory that fails ends the lookup, and no instance is handed out then.
-/

namespace Launchpad

/-- The failure of a factory. -/
structure PluginError where
  capability : String
  name : String
  cause : Failure
  deriving DecidableEq, Repr

namespace PluginError

/-- A factory failure by itself. -/
def toFailure (error : PluginError) : Failure :=
  (Fault.plugin error.capability error.name).dueTo error.cause

/-- A factory failure as the error of the run step that needed the participant. -/
def toLaunchError (error : PluginError) : LaunchError :=
  (LaunchFault.plugin error.capability error.name).dueTo error.cause

end PluginError

/-- Named factories of one capability, in the order of their declaration. -/
structure Declarations (Factory : Type) where
  entries : List (String × Factory) := []
  deriving Repr

namespace Declarations

variable {Factory Plugin : Type}

/-- The names, in the order of declaration. -/
def names (declarations : Declarations Factory) : List String :=
  declarations.entries.map Prod.fst

/-- Declares a factory; a name that is declared already keeps its first factory and its place. -/
def declare (declarations : Declarations Factory) (name : String) (factory : Factory) :
    Declarations Factory :=
  if declarations.names.contains name then declarations
  else ⟨declarations.entries ++ [(name, factory)]⟩

/-- Builds an instance from each entry in turn, up to the first failure. -/
def buildAll {m : Type → Type} [Monad m] (capability : String)
    (build : Factory → m (Except Failure Plugin)) :
    List (String × Factory) → m (Except PluginError (List Plugin))
  | [] => return .ok []
  | (name, factory) :: rest => do
    match ← build factory with
    | .error cause => return .error { capability, name, cause }
    | .ok plugin =>
      match ← buildAll capability build rest with
      | .error error => return .error error
      | .ok plugins => return .ok (plugin :: plugins)

/-- One fresh instance of every declared factory, by precedence. -/
def instantiate {m : Type → Type} [Monad m] (declarations : Declarations Factory)
    (capability : String) (build : Factory → m (Except Failure Plugin)) (order : Plugin → Order) :
    m (Except PluginError (List Plugin)) := do
  match ← buildAll capability build declarations.entries with
  | .error error => return .error error
  | .ok plugins => return .ok (byPrecedence order plugins)

/-- The declarations in which every factory comes with its name. -/
def labelled (declarations : Declarations Factory) : Declarations (String × Factory) :=
  ⟨declarations.entries.map fun entry => (entry.1, entry)⟩

/-- A declared name never loses its first factory. -/
theorem names_declare (declarations : Declarations Factory) (name : String) (factory : Factory) :
    (declarations.declare name factory).names =
      if name ∈ declarations.names then declarations.names else declarations.names ++ [name] := by
  unfold declare
  by_cases known : name ∈ declarations.names
  · simp [known]
  · simp only [List.contains_iff_mem, known, if_false]
    simp [names]

end Declarations

/-- What the factory of a run listener is told about the run. -/
structure ListenerArguments where
  application : String
  /-- The command-line arguments as given. -/
  arguments : List String
  /-- The application listeners of the run, by precedence. -/
  listeners : List ApplicationListener
  deriving DecidableEq, Repr

/-- An observer of the lifecycle of a run. -/
inductive RunListener where
  /-- Turns every phase into an application event. -/
  | eventPublishing (listeners : List ApplicationListener)
  /-- Records every phase in the shared phase log, and fails in at most one of them. -/
  | recorder (failsIn : Option LifecyclePhase) (order : Order)
  | custom (participant : Participant) (order : Order)
  deriving DecidableEq, Repr

/-- The rank of a run listener. -/
def RunListener.order : RunListener → Order
  | eventPublishing _ => some 0
  | recorder _ order => order
  | custom _ order => order

/-- What builds a run listener. -/
inductive RunListenerFactory where
  /-- Builds the listener that publishes application events. -/
  | eventPublishing
  | custom (participant : Participant)
  deriving DecidableEq, Repr

/-- The factories of every capability of a run. -/
structure Catalog where
  runListeners : Declarations RunListenerFactory := {}
  reporters : Declarations Participant := {}
  bootstrapInitializers : Declarations Participant := {}
  contextInitializers : Declarations Participant := {}
  applicationListeners : Declarations Participant := {}
  deriving Repr

namespace Catalog

/-- The name of the listener declared by default. -/
def eventPublishingName : String := "event-publishing"

/-- The catalog that declares nothing but the listener that publishes application events. -/
def withDefaults : Catalog :=
  { runListeners := Declarations.declare {} eventPublishingName .eventPublishing }

/-- The capability names used in messages. -/
def runListenerCapability : String := "RunListener"

/-- The capability name of exception reporters. -/
def reporterCapability : String := "ExceptionReporter"

/-- The capability name of bootstrap initializers. -/
def bootstrapCapability : String := "BootstrapRegistryInitializer"

/-- The capability name of context initializers. -/
def initializerCapability : String := "ContextInitializer"

/-- The capability name of application listeners. -/
def listenerCapability : String := "ApplicationListener"

end Catalog

end Launchpad
