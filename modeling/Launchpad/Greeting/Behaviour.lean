import Launchpad.Command
import Launchpad.Greeting.Basic

/-!
# The greeting application

Its configuration contributes a greeting runner, an echo runner and an exit-code mapper; its catalog
declares a listener that logs the phases, a reporter for greeting faults and a bootstrap initializer
that stamps the launch and hands the stamp to the container.
-/

namespace Launchpad.Greeting

/-- Where the runners write their lines. -/
def transcript : String := "transcript"

/-- The configuration that contributes the runners and the mapper. -/
def configuration : Participant := "greeting"

/-- The runner that greets. -/
def greetingRunner : Participant := "greeting runner"

/-- The runner that echoes plain arguments. -/
def echoRunner : Participant := "echo runner"

/-- The mapper of greeting faults to exit codes. -/
def exitCodes : Participant := "greeting exit codes"

/-- The listener that logs the phases. -/
def audit : Participant := "audit"

/-- The reporter of greeting faults. -/
def console : Participant := "console"

/-- The initializer that stamps the launch, and the listener that hands the stamp over. -/
def launchStamp : Participant := "launch-stamp"

/-- The bean that holds the launch stamp. -/
def launchStampBean : String := "launchStamp"

/-- The type of launch stamps. -/
def launchStampType : String := "liftoff_sample::plugins::LaunchStamp"

/-- Adds a line to the transcript. -/
def write (text : String) : Program Unit := do
  let written ← Program.command (.memory transcript)
  Program.command (.remember transcript (.list (written.items ++ [.text text])))

/-- The lines of the transcript. -/
def linesOf (world : World) : List String :=
  ((world.memory.lookup transcript).getD .nothing).items.map Datum.asText

/-- Logs a record for the operator. -/
def info (message : String) (fields : List (String × String)) : Program Unit :=
  Program.command (.log .info message fields)

/-- Registers beans in order, up to the first that is refused. -/
def registerAll (registry : ContainerRef) : List (String × Bean) → Attempt Unit
  | [] => return ()
  | (name, bean) :: rest => do
    Attempt.need (Program.command (.registerBean registry name bean))
    registerAll registry rest

/-- The beans that the configuration contributes. -/
def beans : List (String × Bean) := [
  ("greetingRunner", .runner ⟨.application, greetingRunner, some 1⟩),
  ("echoRunner", .runner ⟨.commandLine, echoRunner, some 2⟩),
  ("greetingExitCodes", .exitCodeMapper exitCodes)]

/-- Greets as the arguments ask for. -/
def greet (arguments : Arguments) : Attempt Unit := do
  let text ← MonadExcept.ofExcept (line arguments)
  info "Greeting" [("line", text)]
  write text

/-- Registers the launch stamp and the listener that hands it over. -/
def stampLaunch (store : StoreRef) : Attempt Unit := do
  let held ← Program.command (.makeInstance (.sealed launchStampType))
  let supplier := { supply := .existing held }
  let _ ← Attempt.need (Program.command (.register store launchStampType supplier false))
  Attempt.need (Program.command (.listen store launchStamp))

/-- Hands the launch stamp to the container. -/
def handOverStamp (store : StoreRef) (container : ContainerRef) : Attempt Unit := do
  let held ← Attempt.need (Program.command (.read store launchStampType))
  info "Bootstrap finished" [("context", (← Program.command (.container container)).id)]
  registerAll container [(launchStampBean, .value held.value)]

/-- Logs one of the phases that concern the container. -/
def auditContainer (phase : LifecyclePhase) (container : ContainerRef) : Attempt Unit := do
  let fields := [("context", (← Program.command (.container container)).id)]
  match phase with
  | .contextLoaded => info "audit: context loaded" fields
  | .running => info "audit: running" fields
  | _ => return ()

/-- Reports a greeting fault and claims it. -/
def reportGreeting (failure : Failure) : Program Bool := do
  match find? failure with
  | none => return false
  | some fault =>
    Program.command (.log .error ("Cannot greet: " ++ fault.message) [])
    return true

/-- What the participants of the greeting application do. -/
def behaviour : Behaviour
  | .applyBootstrapInitializer _ store => stampLaunch store
  | .buildRunListener _ _ => return .ok (.custom audit (some 10))
  | .buildReporter _ _ => return .ok { name := console.name, reporting := .custom console }
  | .buildBootstrapInitializer _ => return .ok launchStamp
  | .buildContextInitializer participant => return .ok { participant, name := participant.name }
  | .buildApplicationListener participant => return .ok { participant }
  | .starting _ _ => do
    info "audit: starting" []
    return .ok ()
  | .environmentPrepared _ _ environment => do
    let names := PropertySources.names environment.sources
    info "audit: environment prepared" [("sources", Text.quotedList names)]
    return (.ok (), environment)
  | .containerPhase _ phase container => auditContainer phase container
  | .failed _ _ failure => do
    if let some failure := failure then
      info "audit: failed" [("error", failure.message)]
    return .ok ()
  | .onEvent _ _ => return .ok ()
  | .containerClosed _ => return ()
  | .supply _ _ => return .ok (.sealed launchStampType)
  | .handOver _ _ _ => return .ok ()
  | .bootstrapClosing _ store container => handOverStamp store container
  | .configure _ registry => registerAll registry beans
  | .applyContextInitializer _ _ => return .ok ()
  | .bindSettings _ _ _ settings => return (.ok (), settings)
  | .createContainer _ kind => return .ok (← Program.command (.makeContainer kind {}))
  | .renderBanner _ _ _ => return .ok ""
  | .loadSources _ _ _ => return .ok ()
  | .postProcess _ _ => return .ok ()
  | .afterRefresh _ _ _ => return .ok ()
  | .runApplication _ arguments => greet arguments
  | .runCommandLine _ given => do
    if let some text := echo given then write text
    return .ok ()
  | .mapFailure _ failure => return exitCodeOf failure
  | .report _ failure => reportGreeting failure
  | .shutdownAction _ => return ()
  | .startupNotice _ _ => return ()

/-- The participants that the greeting application declares. -/
def catalog : Catalog :=
  let defaults := Catalog.withDefaults
  { defaults with
    runListeners := defaults.runListeners.declare audit.name (.custom audit)
    reporters := defaults.reporters.declare console.name console
    bootstrapInitializers := defaults.bootstrapInitializers.declare launchStamp.name launchStamp }

/-- The greeting application, whose container is registered with the given coordinator. -/
def application (coordinator : CoordinatorRef) : Application :=
  { name := "liftoff-sample"
    mainSource := some "liftoff_sample::greeting::GreetingConfig"
    primarySources := [.component { name := "greeting", participant := configuration }]
    catalog
    defaultProperties := .ofList [("liftoff.main.banner-mode", "log")]
    coordinator }

end Launchpad.Greeting
