import Launchpad.Launch.Plan

/-!
# Instances from the catalog

The instances that a run builds for each capability. Every factory is called by an errand of its
own, in the order of declaration, and the instances are sorted by precedence.
-/

namespace Launchpad.Catalog

/-- The instances of the declared factories, by precedence. -/
def gather {Factory Plugin : Type} (declarations : Declarations Factory) (capability : String)
    (build : String → Factory → Plan (Except Failure Plugin)) (order : Plugin → Order) :
    Plan (Except PluginError (List Plugin)) :=
  declarations.labelled.instantiate capability (fun entry => build entry.1 entry.2) order

/-- Plans the run listeners of a run. -/
def runListenersFor (catalog : Catalog) (arguments : ListenerArguments) :
    Plan (Except PluginError (List RunListener)) :=
  gather catalog.runListeners runListenerCapability
    (fun name factory => Plan.ask (.build name (.runListener factory arguments))) RunListener.order

/-- Plans the reporters for a failed run. -/
def reportersFor (catalog : Catalog) (container : Option ContainerRef) :
    Plan (Except PluginError (List ExceptionReporter)) :=
  gather catalog.reporters reporterCapability
    (fun name factory => Plan.ask (.buildReporter name factory container)) (·.order)

/-- Plans the bootstrap initializers, which have no rank. -/
def bootstrapInitializersFor (catalog : Catalog) :
    Plan (Except PluginError (List Participant)) :=
  gather catalog.bootstrapInitializers bootstrapCapability
    (fun name factory => Plan.ask (.build name (.bootstrapInitializer factory))) fun _ => none

/-- Plans the context initializers. -/
def contextInitializersFor (catalog : Catalog) :
    Plan (Except PluginError (List ContextInitializer)) :=
  gather catalog.contextInitializers initializerCapability
    (fun name factory => Plan.ask (.build name (.contextInitializer factory))) (·.order)

/-- Plans the application listeners. -/
def applicationListenersFor (catalog : Catalog) :
    Plan (Except PluginError (List ApplicationListener)) :=
  gather catalog.applicationListeners listenerCapability
    (fun name factory => Plan.ask (.build name (.applicationListener factory))) (·.order)

/-- The run listeners of a run. -/
def buildRunListeners (invoke : Invoker) (catalog : Catalog) (arguments : ListenerArguments) :
    Act (Except PluginError (List RunListener)) :=
  (catalog.runListenersFor arguments).carryOut invoke

/-- The reporters for a failed run. -/
def buildReporters (invoke : Invoker) (catalog : Catalog) (container : Option ContainerRef) :
    Act (Except PluginError (List ExceptionReporter)) :=
  (catalog.reportersFor container).carryOut invoke

/-- The bootstrap initializers. -/
def buildBootstrapInitializers (invoke : Invoker) (catalog : Catalog) :
    Act (Except PluginError (List Participant)) :=
  catalog.bootstrapInitializersFor.carryOut invoke

/-- The context initializers. -/
def buildContextInitializers (invoke : Invoker) (catalog : Catalog) :
    Act (Except PluginError (List ContextInitializer)) :=
  catalog.contextInitializersFor.carryOut invoke

/-- The application listeners. -/
def buildApplicationListeners (invoke : Invoker) (catalog : Catalog) :
    Act (Except PluginError (List ApplicationListener)) :=
  catalog.applicationListenersFor.carryOut invoke

end Launchpad.Catalog
