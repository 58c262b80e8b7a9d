import Launchpad.Launch.Run
import Launchpad.Proofs.Launch.Execution
import Mathlib.Data.Vector.Basic

/-!
# The itinerary of a run

The calls of a run have a fixed order. Some of it only turns out on the way: what the factories
build, what the settings become, which runners the container holds. `Application.itinerary` is the
order for all that a run finds, and a `Walk` visits its stops up to the first that fails.
-/

namespace Launchpad

/-- A call of the order of a run: to a participant, to the container, or a check of the run's
own. -/
inductive Station where
  | makeStore
  | bootstrapInitializer (participant : Participant) (store : StoreRef)
  /-- The factory that is declared under a name. -/
  | factory (name : String) (construction : Construction)
  /-- The bus enters a phase. -/
  | phase (phase : LifecyclePhase)
  | notice (listener : RunListener) (notice : Notice)
  | environment (listener : RunListener) (store : StoreRef)
  | arguments (given : List String)
  | prefixCheck
  | binding (binder : SettingsBinder)
  | banner (own : Option Banner)
  | containerFactory (factory : ContainerFactory) (kind : ApplicationKind)
  | postProcess (hooks : Participant) (container : ContainerRef)
  | kindCheck (initializer : ContextInitializer)
  | contextInitializer (initializer : ContextInitializer) (container : ContainerRef)
  | storeClose (store : StoreRef)
  | closeAction (store : StoreRef) (container : ContainerRef) (action : CloseAction)
  | singleton (container : ContainerRef) (name : String)
  | sourcesCheck (sources : List Source)
  | registryCheck
  | loading (loader : DefinitionLoader) (container : ContainerRef) (sources : List Source)
  | shutdownRegistration (coordinator : CoordinatorRef) (container : ContainerRef)
  | refresh (container : ContainerRef)
  | afterRefresh (hooks : Participant) (container : ContainerRef)
  | runners (container : ContainerRef)
  | runner (runner : Runner)

/-- What a run learns at a station, as far as its order depends on it. -/
inductive Finding where
  | nothing
  | store (store : StoreRef)
  | bootstrapInitializer (built : Participant)
  | applicationListener (built : ApplicationListener)
  | runListener (built : RunListener)
  | contextInitializer (built : ContextInitializer)
  | settings (settings : Settings)
  | banner (printed : Option PrintedBanner)
  | container (container : ContainerRef)
  | closeActions (actions : List CloseAction)
  | runners (runners : List Runner)

/-- A station and what is found there. -/
structure Stop where
  station : Station
  finding : Finding := .nothing

namespace Station

/-- The phase that the bus enters. -/
def phase? : Station → Option LifecyclePhase
  | phase entered => some entered
  | _ => none

/-- Whether a station neither moves the bus nor creates the container. -/
def isPlain : Station → Bool
  | phase _ => false
  | containerFactory .. => false
  | _ => true

end Station

/-- The container that is created at a stop. -/
def Stop.container? : Stop → Option ContainerRef
  | { station := .containerFactory .., finding := .container container } => some container
  | _ => none

/-- What is found when a factory builds something. -/
def Construction.finding : (construction : Construction) → construction.Product → Finding
  | bootstrapInitializer _, built => .bootstrapInitializer built
  | applicationListener _, built => .applicationListener built
  | runListener .., built => .runListener built
  | contextInitializer _, built => .contextInitializer built

namespace Errand

/-- The station of an errand. Logging, measuring and all that follows a failure have none. -/
def station? : Errand → Option Station
  | makeStore => some .makeStore
  | applyBootstrapInitializer participant store => some (.bootstrapInitializer participant store)
  | build name construction => some (.factory name construction)
  | enterPhase _ .failed => none
  | enterPhase _ phase => some (.phase phase)
  | tell listener notice => some (.notice listener notice)
  | showEnvironment listener store _ => some (.environment listener store)
  | readArguments given => some (.arguments given)
  | check (.environmentPrefix _) => some .prefixCheck
  | check (.kind initializer _) => some (.kindCheck initializer)
  | check (.sources sources) => some (.sourcesCheck sources)
  | check (.registry _) => some .registryCheck
  | bindSettings binder _ _ => some (.binding binder)
  | printBanner _ _ own _ => some (.banner own)
  | createContainer factory kind => some (.containerFactory factory kind)
  | postProcess hooks container => some (.postProcess hooks container)
  | applyContextInitializer initializer container =>
    some (.contextInitializer initializer container)
  | beginCloseStore store => some (.storeClose store)
  | runCloseAction store container action => some (.closeAction store container action)
  | registerSingleton container name _ => some (.singleton container name)
  | load loader container sources => some (.loading loader container sources)
  | registerForShutdown coordinator container => some (.shutdownRegistration coordinator container)
  | refresh container => some (.refresh container)
  | afterRefresh hooks container _ => some (.afterRefresh hooks container)
  | runners container => some (.runners container)
  | callRunner runner _ => some (.runner runner)
  | setHeadless _ | .readVariables | log .. | tagPhase .. | leavePhase .. | inspect _ | equip ..
  | resolveExitCode .. | publish .. | tellFailed .. | buildReporter .. | report .. | close _ => none

/-- The answer of a call that is there to be made: a failure of it is the cause of a fault. -/
def settled (fault : LaunchFault) : Except Failure Unit → Except LaunchError Finding
  | .ok () => .ok .nothing
  | .error failure => .error (fault.dueTo failure)

/-- What an answer means for the run: something is found, or the run has an error. -/
def outcome : (errand : Errand) → errand.Answer → Except LaunchError Finding
  | makeStore, store => .ok (.store store)
  | applyBootstrapInitializer .., answer => settled .bootstrapInitializer answer
  | build _ construction, .ok built => .ok (construction.finding built)
  | build name construction, .error failure =>
    .error ((LaunchFault.plugin construction.capability name).dueTo failure)
  | tell _ notice, answer => settled (.listener notice.phase) answer
  | showEnvironment .., answer => settled (.listener .environmentPrepared) answer.1
  | readArguments _, .ok _ => .ok .nothing
  | readArguments _, .error argument => .error (LaunchFault.arguments argument).alone
  | check _, .ok () => .ok .nothing
  | check _, .error error => .error error
  | bindSettings .., (.ok (), settings) => .ok (.settings settings)
  | bindSettings .., (.error failure, _) => .error (LaunchFault.binding.dueTo failure)
  | printBanner .., .ok printed => .ok (.banner printed)
  | printBanner .., .error failure => .error (LaunchFault.banner.dueTo failure)
  | createContainer .., .ok container => .ok (.container container)
  | createContainer _ kind, .error failure =>
    .error ((LaunchFault.contextCreation kind).dueTo failure)
  | postProcess .., answer => settled .postProcess answer
  | applyContextInitializer initializer _, answer => settled (.initializer initializer.name) answer
  | beginCloseStore _, .ok actions => .ok (.closeActions actions)
  | beginCloseStore _, .error fault => .error (LaunchFault.bootstrap fault).alone
  | runCloseAction .., answer => settled (.bootstrap .closeListener) answer
  | registerSingleton .., .ok () => .ok .nothing
  | registerSingleton .., .error fault => .error (LaunchFault.container fault).alone
  | load .., answer => settled .load answer
  | registerForShutdown .., true => .ok .nothing
  | registerForShutdown .., false => .error LaunchFault.shutdown.alone
  | refresh _, answer => settled .refresh answer
  | afterRefresh .., answer => settled .afterRefresh answer
  | runners _, held => .ok (.runners held)
  | callRunner runner _, answer => settled (.runner runner.kind.name) answer
  | _, _ => .ok .nothing

/-- The error of the run that an answer brings. -/
def error? (errand : Errand) (answer : errand.Answer) : Option LaunchError :=
  match errand.outcome answer with
  | .ok _ => none
  | .error error => some error

/-- An errand is no failure if its answer has a finding. -/
theorem error?_eq_none_iff {errand : Errand} {answer : errand.Answer} :
    errand.error? answer = none ↔ ∃ finding, errand.outcome answer = .ok finding := by
  unfold error?
  cases errand.outcome answer <;> simp

/-- The error of an errand is the one that its outcome is. -/
theorem error?_eq_some_iff {errand : Errand} {answer : errand.Answer} {error : LaunchError} :
    errand.error? answer = some error ↔ errand.outcome answer = .error error := by
  unfold error?
  cases errand.outcome answer <;> simp

end Errand

/-- What a run does about its failure. -/
inductive Milestone where
  | resolving (container : Option ContainerRef) (failure : Failure)
  | publishing (container : ContainerRef) (event : ApplicationEvent)
  /-- The bus enters the phase `failed`. -/
  | failing
  | telling (listener : RunListener) (container : Option ContainerRef) (failure : Option Failure)
  /-- A reporter is built, or asked whether it reports the failure. -/
  | reporting
  | closing (container : ContainerRef)

/-- The milestone of an errand. Only what follows a failure has one. -/
def Errand.milestone? : Errand → Option Milestone
  | .resolveExitCode container failure => some (.resolving container failure)
  | .publish container event => some (.publishing container event)
  | .enterPhase _ .failed => some .failing
  | .tellFailed listener container failure => some (.telling listener container failure)
  | .buildReporter .. => some .reporting
  | .report .. => some .reporting
  | .close container => some (.closing container)
  | _ => none

/-- The milestones among replies. -/
def milestonesOf (replies : List Reply) : List Milestone :=
  replies.filterMap (·.errand.milestone?)

@[simp] theorem milestonesOf_nil : milestonesOf [] = [] := rfl

@[simp] theorem milestonesOf_append (first second : List Reply) :
    milestonesOf (first ++ second) = milestonesOf first ++ milestonesOf second :=
  List.filterMap_append

theorem milestonesOf_singleton (reply : Reply) :
    milestonesOf [reply] = reply.errand.milestone?.toList := by
  cases found : reply.errand.milestone? <;> simp [milestonesOf, found]

/-- What became of a call of the order. -/
inductive Visit where
  | passed (stop : Stop)
  | failed (station : Station) (error : LaunchError)
  /-- The call did not come to an end. -/
  | broken (station : Station)

namespace Visit

/-- Where the call was made. -/
def station : Visit → Station
  | passed stop => stop.station
  | failed station _ => station
  | broken station => station

/-- The phase that the bus entered. -/
def phase? (visit : Visit) : Option LifecyclePhase := visit.station.phase?

/-- The container that was created. -/
def container? : Visit → Option ContainerRef
  | passed stop => stop.container?
  | _ => none

end Visit

/-- The visit that a reply stands for, if its errand has a station. -/
def Reply.visit? (reply : Reply) : Option Visit :=
  reply.errand.station?.map fun station =>
    match reply.answer with
    | .error _ => .broken station
    | .ok answer =>
      match reply.errand.outcome answer with
      | .ok finding => .passed { station, finding }
      | .error error => .failed station error

namespace Reply

variable {errand : Errand} {station : Station}

/-- An answer with a finding is a visit that passes its station. -/
theorem visit?_passed {answer : errand.Answer} {finding : Finding}
    (known : errand.station? = some station) (found : errand.outcome answer = .ok finding) :
    (⟨errand, .ok answer⟩ : Reply).visit? = some (.passed { station, finding }) := by
  simp [visit?, known, found]

/-- An answer with an error is a visit that fails at its station. -/
theorem visit?_failed {answer : errand.Answer} {error : LaunchError}
    (known : errand.station? = some station) (wrong : errand.outcome answer = .error error) :
    (⟨errand, .ok answer⟩ : Reply).visit? = some (.failed station error) := by
  simp [visit?, known, wrong]

/-- A visit is to the station of its errand. -/
theorem station_of_visit? {reply : Reply} {visit : Visit} (visited : reply.visit? = some visit) :
    reply.errand.station? = some visit.station := by
  obtain ⟨station, known, rfl⟩ := Option.map_eq_some_iff.1 visited
  rw [known]
  split
  · rfl
  · split <;> rfl

/-- An errand that is broken off breaks the visit to its station. -/
theorem visit?_broken {abort : Abort} (known : errand.station? = some station) :
    (⟨errand, .error abort⟩ : Reply).visit? = some (.broken station) := by
  simp [visit?, known]

end Reply

/-- The visits that replies stand for. -/
def visitsOf (replies : List Reply) : List Visit := replies.filterMap Reply.visit?

@[simp] theorem visitsOf_nil : visitsOf [] = [] := rfl

theorem visitsOf_singleton (reply : Reply) : visitsOf [reply] = reply.visit?.toList := by
  cases found : reply.visit? <;> simp [visitsOf, found]

@[simp] theorem visitsOf_append (first second : List Reply) :
    visitsOf (first ++ second) = visitsOf first ++ visitsOf second := List.filterMap_append

/-- The calls of the order that were made during an execution. -/
def Execution.visits {α : Type} (execution : Execution α) : List Visit :=
  visitsOf execution.replies

/-- How a walk ended. -/
inductive Course where
  | completed
  | failed (error : LaunchError)
  /-- Something did not come to an end. -/
  | stopped
  deriving DecidableEq, Repr

/-- Visiting the stops of an order one after the other, up to the first that fails. What follows a
failure may itself not come to an end, which makes a failed walk a stopped one. -/
inductive Walk : List Stop → List Visit → Course → Prop where
  | completed : Walk [] [] .completed
  | passed {stop : Stop} {order : List Stop} {visits : List Visit} {course : Course}
      (rest : Walk order visits course) : Walk (stop :: order) (.passed stop :: visits) course
  | failed {stop : Stop} {order : List Stop} {error : LaunchError} :
      Walk (stop :: order) [.failed stop.station error] (.failed error)
  | broken {stop : Stop} {order : List Stop} :
      Walk (stop :: order) [.broken stop.station] .stopped
  | stopped {order : List Stop} : Walk order [] .stopped
  | failedStopped {stop : Stop} {order : List Stop} {error : LaunchError} :
      Walk (stop :: order) [.failed stop.station error] .stopped

namespace Walk

variable {order first second : List Stop} {visits others : List Visit} {course : Course}

/-- A completed walk has passed every stop. -/
theorem completed_iff : Walk order visits .completed ↔ visits = order.map .passed := by
  constructor
  · intro walk
    generalize reached : Course.completed = course at walk
    induction walk with
    | completed => rfl
    | passed _ ih => simp [ih reached]
    | failed | broken | stopped | failedStopped => cases reached
  · rintro rfl
    induction order with
    | nil => exact .completed
    | cons stop rest ih => exact .passed ih

/-- A walk goes on where a completed one ended. -/
theorem append (walk : Walk first visits .completed) (rest : Walk second others course) :
    Walk (first ++ second) (visits ++ others) course := by
  rw [completed_iff] at walk
  subst walk
  induction first with
  | nil => exact rest
  | cons stop first ih => exact .passed ih

/-- A walk that did not complete does not depend on what would have come next. -/
theorem extend (walk : Walk first visits course) (ended : course ≠ .completed) :
    Walk (first ++ second) visits course := by
  induction walk with
  | completed => exact absurd rfl ended
  | passed _ ih => exact .passed (ih ended)
  | failed => exact .failed
  | broken => exact .broken
  | stopped => exact .stopped
  | failedStopped => exact .failedStopped

/-- A failed walk is a stopped one if what follows the failure does not come to an end. -/
theorem stop {error : LaunchError} (walk : Walk order visits (.failed error)) :
    Walk order visits .stopped := by
  generalize reached : Course.failed error = course at walk
  induction walk with
  | passed _ ih => exact .passed (ih reached)
  | failed => exact .failedStopped
  | completed | broken | stopped | failedStopped => cases reached

/-- A failed walk has been at its first stop. -/
theorem first_of_failed {stop : Stop} {error : LaunchError}
    (walk : Walk (stop :: order) visits (.failed error)) :
    ∃ visit rest, visits = visit :: rest ∧ visit.station = stop.station := by
  cases walk with
  | passed _ => exact ⟨_, _, rfl, rfl⟩
  | failed => exact ⟨_, _, rfl, rfl⟩

/-- The last visit of a failed walk is the one that failed, and all others have passed. -/
theorem visits_of_failed {error : LaunchError} (walk : Walk order visits (.failed error)) :
    ∃ (passed : List Stop) (station : Station),
      visits = passed.map .passed ++ [.failed station error] := by
  generalize reached : Course.failed error = course at walk
  induction walk with
  | passed _ ih =>
    obtain ⟨passed, station, rfl⟩ := ih reached
    exact ⟨_ :: passed, station, rfl⟩
  | failed =>
    cases reached
    exact ⟨[], _, rfl⟩
  | completed | broken | stopped | failedStopped => cases reached

/-- A failed walk has not passed as many stops as its order has. -/
theorem not_prefix_of_failed {error : LaunchError} (walk : Walk order visits (.failed error))
    {stops : List Stop} (length : stops.length = order.length) :
    ¬ stops.map Visit.passed <+: visits := by
  generalize reached : Course.failed error = course at walk
  induction walk generalizing stops with
  | passed _ ih =>
    obtain ⟨stop, rest, rfl⟩ := List.exists_cons_of_length_eq_add_one length
    intro start
    exact ih (by simpa using length) reached (List.cons_prefix_cons.1 start).2
  | failed =>
    obtain ⟨stop, rest, rfl⟩ := List.exists_cons_of_length_eq_add_one length
    intro start
    cases (List.cons_prefix_cons.1 start).1
  | completed | broken | stopped | failedStopped => cases reached

/-- What is read off the visits of a walk begins what is read off its order. -/
theorem filterMap_prefix {γ : Type} {ofVisit : Visit → Option γ} {ofStop : Stop → Option γ}
    (passed : ∀ stop, ofVisit (.passed stop) = ofStop stop)
    (failed : ∀ stop error, ofVisit (.failed stop.station error) = ofStop stop)
    (broken : ∀ stop, ofVisit (.broken stop.station) = ofStop stop)
    (walk : Walk order visits course) :
    visits.filterMap ofVisit <+: order.filterMap ofStop := by
  induction walk with
  | completed => exact List.prefix_refl _
  | @passed stop _ _ _ _ ih =>
    rw [List.filterMap_cons, List.filterMap_cons, passed]
    cases ofStop stop with
    | none => exact ih
    | some read => exact List.cons_prefix_cons.2 ⟨rfl, ih⟩
  | stopped => exact List.nil_prefix
  | @failed stop _ error =>
    rw [List.filterMap_cons, List.filterMap_cons, failed]
    cases ofStop stop <;> simp
  | @broken stop _ =>
    rw [List.filterMap_cons, List.filterMap_cons, broken]
    cases ofStop stop <;> simp
  | @failedStopped stop _ error =>
    rw [List.filterMap_cons, List.filterMap_cons, failed]
    cases ofStop stop <;> simp

end Walk

/-- The stops at the factories of a capability, with what each of them builds. -/
def factoryStops {Factory Product : Type} (declarations : Declarations Factory)
    (construction : Factory → Construction) (finding : Product → Finding)
    (built : List Product) : List Stop :=
  List.zipWith (fun entry product =>
    { station := .factory entry.1 (construction entry.2), finding := finding product })
    declarations.entries built

/-- The stops of a phase: the bus enters it and gives the notice to the listeners in order. -/
def noticeStops (listeners : List RunListener) (notice : Notice) : List Stop :=
  { station := .phase notice.phase } ::
    listeners.map fun listener => { station := .notice listener notice }

/-- What a run finds before it has a bus. Every declared factory builds something. -/
structure Gathered (application : Application) where
  store : StoreRef
  bootstrapInitializers :
    List.Vector Participant application.catalog.bootstrapInitializers.entries.length
  applicationListeners :
    List.Vector ApplicationListener application.catalog.applicationListeners.entries.length
  runListeners : List.Vector RunListener application.catalog.runListeners.entries.length

/-- What a run finds on its way. -/
structure Found (application : Application) extends Gathered application where
  /-- The settings after properties were bound to them. -/
  settings : Settings
  banner : Option PrintedBanner
  container : ContainerRef
  contextInitializers :
    List.Vector ContextInitializer application.catalog.contextInitializers.entries.length
  closeActions : List CloseAction
  runners : List Runner

namespace Application

variable (application : Application)

/-- The bootstrap store is made, and the initializers are applied to it. -/
def storeStops (store : StoreRef) (built : List Participant) : List Stop :=
  { station := .makeStore, finding := .store store } ::
    application.bootstrapInitializers.map (fun participant =>
      { station := .bootstrapInitializer participant store }) ++
    factoryStops application.catalog.bootstrapInitializers .bootstrapInitializer
      .bootstrapInitializer built ++
    (byPrecedence (fun _ => none) built).map fun participant =>
      { station := .bootstrapInitializer participant store }

/-- What the factories of run listeners are told. -/
def listenerArguments (given : List String) (built : List ApplicationListener) :
    ListenerArguments where
  application := application.name
  arguments := given
  listeners := byPrecedence (·.order) (application.listeners ++ byPrecedence (·.order) built)

/-- The listeners are built. -/
def busStops (given : List String) (built : List ApplicationListener)
    (runListeners : List RunListener) : List Stop :=
  factoryStops application.catalog.applicationListeners .applicationListener .applicationListener
    built ++
  factoryStops application.catalog.runListeners
    (.runListener · (application.listenerArguments given built)) .runListener runListeners

/-- The environment is shown to the listeners, checked, and bound to the settings. -/
def environmentStops (listeners : List RunListener) (store : StoreRef) (settings : Settings) :
    List Stop :=
  { station := .phase .environmentPrepared } ::
    listeners.map (fun listener => { station := .environment listener store }) ++
    [{ station := .prefixCheck },
     { station := .binding application.binder, finding := .settings settings }]

/-- The context initializers are built and applied by precedence, each after a check that it accepts
the kind of the container. -/
def initializerStops (container : ContainerRef) (built : List ContextInitializer) : List Stop :=
  factoryStops application.catalog.contextInitializers .contextInitializer .contextInitializer
      built ++
    (byPrecedence (·.order) (application.initializers ++ byPrecedence (·.order) built)).flatMap
      fun initializer =>
        [{ station := .kindCheck initializer },
         { station := .contextInitializer initializer container }]

/-- The bootstrap store is closed. -/
def closeStops (store : StoreRef) (container : ContainerRef) (actions : List CloseAction) :
    List Stop :=
  { station := .storeClose store, finding := .closeActions actions } ::
    actions.map fun action => { station := .closeAction store container action }

/-- The arguments and the banner, if one was printed, become singletons. -/
def singletonStops (container : ContainerRef) (banner : Option PrintedBanner) : List Stop :=
  { station := .singleton container argumentsBean } ::
    banner.toList.map fun _ => { station := .singleton container bannerBean }

/-- There are sources and a registry to load them into, and the loader is called. -/
def loadStops (container : ContainerRef) (settings : Settings) : List Stop :=
  [{ station := .sourcesCheck (application.sourcesUnder settings) },
   { station := .registryCheck },
   { station := .loading application.loader container (application.sourcesUnder settings) }]

/-- The container is prepared. -/
def preparationStops (listeners : List RunListener) (store : StoreRef) (container : ContainerRef)
    (settings : Settings) (banner : Option PrintedBanner) (built : List ContextInitializer)
    (actions : List CloseAction) : List Stop :=
  application.hooks.toList.map (fun hooks => { station := .postProcess hooks container }) ++
  application.initializerStops container built ++
  noticeStops listeners (.contextPrepared container) ++
  closeStops store container actions ++
  singletonStops container banner ++
  application.loadStops container settings ++
  noticeStops listeners (.contextLoaded container)

/-- The container is registered for shutdown, if the settings ask for it. -/
def shutdownStops (container : ContainerRef) (settings : Settings) : List Stop :=
  if settings.registerShutdownHook then
    [{ station := .shutdownRegistration application.coordinator container }]
  else []

/-- The runners are called. -/
def runnerStops (container : ContainerRef) (runners : List Runner) : List Stop :=
  { station := .runners container, finding := .runners runners } ::
    (Runner.ordered runners).map fun runner => { station := .runner runner }

variable {application}

/-- The stops before there is a bus. -/
def readyStops (given : List String) (gathered : Gathered application) : List Stop :=
  application.storeStops gathered.store gathered.bootstrapInitializers.toList ++
    application.busStops given gathered.applicationListeners.toList gathered.runListeners.toList

/-- The bus that a run gathers. -/
def gatheredBus (gathered : Gathered application) : LifecycleBus where
  listeners := byPrecedence RunListener.order gathered.runListeners.toList
  startup := application.startup

/-- The stops from `starting` to the last runner. -/
def launchStops (given : List String) (listeners : List RunListener) (found : Found application) :
    List Stop :=
  noticeStops listeners (.starting found.store application.mainSource) ++
  { station := .arguments given } ::
  application.environmentStops listeners found.store found.settings ++
  { station := .banner application.banner, finding := .banner found.banner } ::
  { station := .containerFactory application.factory (application.kindUnder found.settings)
    finding := .container found.container } ::
  application.preparationStops listeners found.store found.container found.settings found.banner
    found.contextInitializers.toList found.closeActions ++
  application.shutdownStops found.container found.settings ++
  { station := .refresh found.container } ::
  application.hooks.toList.map (fun hooks =>
    { station := .afterRefresh hooks found.container }) ++
  noticeStops listeners (.started found.container) ++
  runnerStops found.container found.runners

/-- The calls of a run in their order, for all that the run finds. -/
def itinerary (given : List String) (found : Found application) : List Stop :=
  let listeners := (gatheredBus found.toGathered).listeners
  readyStops given found.toGathered ++ launchStops given listeners found ++
    noticeStops listeners (.running found.container)

/-- Whether visits show that the bus was built: every call has passed up to the last factory of a
run listener. -/
def BusBuilt (given : List String) (gathered : Gathered application) (visits : List Visit) : Prop :=
  (readyStops given gathered).map .passed <+: visits

/-- Every declared factory has one stop. -/
theorem length_factoryStops {Factory Product : Type} {declarations : Declarations Factory}
    {construction : Factory → Construction} {finding : Product → Finding}
    (built : List.Vector Product declarations.entries.length) :
    (factoryStops declarations construction finding built.toList).length =
      declarations.entries.length := by
  simp [factoryStops]

/-- How many stops there are before there is a bus does not depend on what is gathered there. -/
theorem length_readyStops (given : List String) (gathered other : Gathered application) :
    (readyStops given gathered).length = (readyStops given other).length := by
  have sorted : ∀ built : List.Vector Participant
      application.catalog.bootstrapInitializers.entries.length,
      (byPrecedence (fun _ => none) built.toList).length =
        application.catalog.bootstrapInitializers.entries.length := fun built => by
    rw [(byPrecedence_perm _ _).length_eq, List.Vector.toList_length]
  simp [readyStops, storeStops, busStops, length_factoryStops, sorted]

end Application

end Launchpad
