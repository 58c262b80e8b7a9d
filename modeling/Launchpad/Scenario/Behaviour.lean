import Launchpad.Scenario.Coordinator
import Launchpad.Scenario.Store

/-!
# What scripted participants do

A scripted participant remarks that it was called, takes the steps of its description, and fails if
its description says so. `behaviourOr` lets scripted participants follow their descriptions and
leaves the others to another behaviour.
-/

namespace Launchpad.Scenario

/-- Fails if the description has a failure. -/
def failAsDescribed (description : Datum) : Attempt Unit :=
  failWith (failureAt? description "fail")

/-- Fails if the description lists the name of what the participant was told. -/
def failIn (description : Datum) (key name : String) : Attempt Unit :=
  if (description.textsAt key).contains name then throw (failureAt description "error")
  else return ()

/-- Remarks on a call, takes steps, and fails if the description says so. -/
def part (description : Datum) (remark : List Datum) (steps : Attempt Unit := pure ()) :
    Program (Except Failure Unit) := ExceptT.run do
  say remark
  steps
  failAsDescribed description

/-- Builds a participant unless its description says that the factory fails. -/
def factory {Plugin : Type} (description : Datum) (built : Plugin) : Attempt Plugin := do
  failWith (failureAt? description "factory_fail")
  return built

/-! ## Listeners -/

/-- What is remarked about an event beside its name. -/
def eventDetail : ApplicationEvent → List Datum
  | .starting => []
  | .environmentPrepared profiles => [profiles]
  | .contextInitialized id | .prepared id | .contextRefreshed id | .started id | .ready id
  | .contextClosed id => [id]
  | .failed id message => [id, message]
  | .exitCode code => [code]

/-- Receives an event; the steps for it are taken on the container that the listener captured. -/
def onEvent (listener : Participant) (event : ApplicationEvent) : Attempt Unit := do
  let description := specOf listener
  say ("event" :: toDatum (description.textAt "id") :: toDatum event.name :: eventDetail event)
  containerSteps (.ofParticipant listener) ((description.field "steps").itemsAt event.name)
  failIn description "fail_on" event.name

/-- Sees a phase: remarks on it, takes the steps for it if there is a container, and fails if the
description says so. A quiet listener does nothing. -/
def seePhase (description : Datum) (phase : LifecyclePhase) (container : Option ContainerRef)
    (detail : Program Datum) : Attempt Unit := do
  unless description.flagAt "quiet" do
    say ["phase", description.textAt "name", phase, ← detail]
    if let some ref := container then
      containerSteps { ref } ((description.field "ctx").itemsAt phase.name)
    failIn description "fail_in" phase.name

/-- Takes steps on an environment, with a remark on each. -/
def environmentSteps (environment : Environment) : List Datum → Program Environment
  | [] => return environment
  | step :: rest => do
    let (result, changed) := environmentStep environment step
    say ["env", step.textAt "do", result]
    environmentSteps changed rest

/-- Sees the environment after taking the steps for it. What a step changed stays changed even if
the listener fails later. -/
def seeEnvironment (description : Datum) (store : StoreRef) (environment : Environment) :
    Program (Except Failure Unit × Environment) := do
  if description.flagAt "quiet" then return (.ok (), environment)
  match ← (storeSteps store (description.itemsAt "boot_env")).run with
  | .error failure => return (.error failure, environment)
  | .ok () =>
    let environment ← environmentSteps environment (description.itemsAt "env")
    let names := PropertySources.names environment.sources
    return (← (seePhase description .environmentPrepared none (pure names)).run, environment)

/-! ## Other participants -/

/-- Runs a runner. A stub fails with the code that it has, if it has one, and remarks nothing. -/
def runRunner (description : Datum) (given : List Datum) : Program (Except Failure Unit) :=
  if description.textAt "type" = "stub" then
    ExceptT.run <| failWith <| (description.field "code").asCode?.map fun code =>
      ⟨.exitStatus code "stub runner failed", []⟩
  else
    part description ("runner" :: toDatum (description.textAt "id") ::
      if description.flagAt "unordered" then [] else given)

/-- Receives an instance when a store closes, and may put it into the container. -/
def receive (description : Datum) (held : BootstrapInstance) (container : ContainerRef) :
    Program (Except Failure Unit) := do
  part description ["on_close", description.textAt "name", held.value, ← containerId container] do
    if let some name := description.textAt? "singleton" then
      need (run (.registerBean container name (.value held.value)))

/-- Binds the settings that the description gives. -/
def bindDescribed (description : Datum) (environment : Environment) (root : String)
    (settings : Settings) : Program (Except Failure Unit × Settings) := do
  say ["binder", root, PropertySources.names environment.sources]
  match failureAt? description "fail" with
  | some failure => return (.error failure, settings)
  | none =>
    return (.ok (), { settings with
      applicationKind := (kindAt? description "kind").or settings.applicationKind
      sources :=
        if description.has "sources" then description.textsAt "sources" else settings.sources })

/-- The key under which the container that a scripted factory made last is remembered. -/
def madeKey : String := "made"

/-- Makes the container that the description says, of the requested kind unless it says another. -/
def createDescribed (description : Datum) (kind : ApplicationKind) : Attempt ContainerRef := do
  say ["factory", kind]
  failAsDescribed description
  let made := (← makeContainer ((kindAt? description "kind").getD kind) description).ref
  run (.remember madeKey made.index)
  return made

/-- Renders a banner, or fails as an output does with the message that the description gives. -/
def renderDescribed (description : Datum) (environment : Environment)
    (mainSource : Option String) : Attempt String := do
  failWith ((description.textAt? "fail").map fun message => (Failure.text message).handedOn)
  return description.textAt "label" ++
    " main=" ++ Text.quotedOption (mainSource.map Text.quoted) ++
    " profiles=" ++ Text.quotedList environment.activeProfiles ++ "\n"

/-- Whether a description claims a failure: always, never, or if the failure mentions a text. -/
def claims (description : Datum) (failure : Failure) : Bool :=
  match description.field "claims" with
  | .text text => failure.mentions text
  | _ => description.flagAt "claims"

/-- Reports a failure. A reporter without a name of its own remarks nothing. -/
def report (description : Datum) (failure : Failure) : Program Bool := do
  unless description.flagAt "unnamed" do
    say ["report", description.textAt "name", failure.message]
  return claims description failure

/-- Runs a shutdown action, which may throw in the end. -/
def runAction (action : Participant) : Program Unit := do
  let description := specOf action
  say ["action", description.textAt "name"]
  shutdownSteps (action.captured.textAt "scope") (description.itemsAt "steps")
  match description.textAt? "panic" with
  | some message => .panic message
  | none => return ()

/-- What a scripted participant does when it is called. -/
def follow (participant : Participant) : Behaviour :=
  let description := specOf participant
  let captured := participant.captured
  fun
  | .applyBootstrapInitializer _ store =>
    part description ["bootstrap_initializer", description.textAt "name"]
      (storeSteps store (description.itemsAt "steps"))
  | .buildRunListener _ arguments => do
    let orders := arguments.listeners.map ApplicationListener.order
    say ["listener_factory", captured.textAt "as", arguments.application, arguments.arguments,
      orders]
    (factory description (runListenerOf description)).run
  | .buildReporter _ container => do
    say ["reporter_factory", captured.textAt "as", ← containerId? container]
    (factory description (reporterOf (.ofParticipant participant) description)).run
  | .buildBootstrapInitializer _ => (factory description (script description)).run
  | .buildContextInitializer _ =>
    (factory description (initializerOf (.ofParticipant participant) description)).run
  | .buildApplicationListener _ => (factory description (listenerOf description)).run
  | .starting _ store => ExceptT.run do
    unless description.flagAt "quiet" do storeSteps store (description.itemsAt "boot")
    seePhase description .starting none do return (← run (.store store)).closed
  | .environmentPrepared _ store environment => seeEnvironment description store environment
  | .containerPhase _ phase container =>
    (seePhase description phase container do return ← containerId container).run
  | .failed _ container failure =>
    (seePhase description .failed container do
      return [toDatum (← containerId? container), failure.map Failure.message]).run
  | .onEvent _ event => (onEvent participant event).run
  | .containerClosed _ => do
    let held := Held.ofParticipant participant
    say ["closed", description.textAt "name", (← run (.container held.ref)).isActive]
    let _ ← (containerSteps held (description.itemsAt "steps")).run
    return ()
  | .supply _ store => (supplyValue store description).run
  | .handOver _ held container => receive description held container
  | .bootstrapClosing _ store container => do
    part description ["close_listener", description.textAt "name", ← containerId container] do
      storeSteps store (description.itemsAt "steps")
      containerSteps { ref := container } (description.itemsAt "ctx")
  | .configure _ registry =>
    part description ["configuration", description.textAt "name"]
      ((description.itemsAt "beans").forM fun bean => do
        let _ ← registerBean registry bean
        return ())
  | .applyContextInitializer _ container => do
    if description.flagAt "unnamed" then
      part description ["initializer", captured.textAt "name"]
    else
      part description ["initializer", captured.textAt "name", ← containerId container]
        (containerSteps { ref := container } (description.itemsAt "steps"))
  | .bindSettings _ environment root settings =>
    bindDescribed description environment root settings
  | .createContainer _ kind => (createDescribed description kind).run
  | .renderBanner _ environment mainSource =>
    (renderDescribed description environment mainSource).run
  | .loadSources _ _ _ => return .ok ()
  | .postProcess _ container => ExceptT.run do
    say ["post_process", ← containerId container]
    containerSteps { ref := container } (description.itemsAt "post_process")
  | .afterRefresh _ container arguments => ExceptT.run do
    say ["after_refresh", ← containerId container, arguments.given]
    containerSteps { ref := container } (description.itemsAt "after_refresh")
  | .runApplication _ arguments =>
    runRunner description [arguments.optionNames, arguments.plain]
  | .runCommandLine _ given => runRunner description [given]
  | .mapFailure _ failure => return codeByRule description failure
  | .report _ failure => report description failure
  | .shutdownAction _ => runAction participant
  | .startupNotice _ _ => return ()

/-- Scripted participants follow their descriptions; the others behave as given. -/
def behaviourOr (otherwise : Behaviour) : Behaviour := fun call =>
  if call.participant.name = scripted then follow call.participant call else otherwise call

end Launchpad.Scenario
