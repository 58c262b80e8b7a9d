import Launchpad.Proofs.Greeting.Environment
import Launchpad.Proofs.Greeting.Participants

/-!
# The run of a greeting

The run of the greeting application, step by step, in any process whose variables and arguments
leave the library's own properties alone. Until the runners are called nothing depends on the
arguments but the command line that becomes part of the environment and of the container.
-/

namespace Launchpad

/-- If every declared factory delivers, gathering answers what they deliver in the order of
precedence. -/
theorem Catalog.yields_gather {Factory Plugin : Type} {invoke : Invoker} {before : World}
    {declarations : Declarations Factory} {capability : String}
    {build : String → Factory → Plan (Except Failure Plugin)} {order : Plugin → Order}
    {plugins : List Plugin}
    (builds : List.Forall₂ (fun entry plugin =>
      Plan.Yields invoke (build entry.1 entry.2) before (.ok plugin) before) declarations.entries
      plugins) :
    Plan.Yields invoke (gather declarations capability build order) before
      (.ok (byPrecedence order plugins)) before := by
  have all : Plan.Yields invoke
      (Declarations.buildAll capability (fun entry => build entry.1 entry.2)
        declarations.labelled.entries) before (.ok plugins) before := by
    unfold Declarations.labelled
    generalize declarations.entries = entries at builds
    induction builds with
    | nil => exact .pure _
    | cons first _ ih => exact .bind first (.bind ih (.pure _))
  exact .bind all (.pure _)

namespace Greeting

variable {invoke : Invoker} {before : World} {coordinator : CoordinatorRef}

/-- The bus of a greeting after the given phase. -/
def busAfter (phase : Option LifecyclePhase) : LifecycleBus :=
  { listeners := [.eventPublishing [], .custom audit (some 10)], startup := .discarded, phase }

/-- The bootstrap store is made, and the initializer stamps the launch in it. -/
theorem yields_makeStore (answered : Answered invoke) :
    StepM.Yields invoke (application coordinator).makeStore () before
      (.ok ⟨before.stores.length⟩) ()
      ((counted before).keeping (stamped before.nextInstance)) := by
  have builds : Plan.Yields invoke (application coordinator).catalog.bootstrapInitializersFor
      (before.keeping {}) (.ok [launchStamp]) (before.keeping {}) := by
    have sorted : byPrecedence (fun _ => none) [launchStamp] = [launchStamp] :=
      byPrecedence_of_pairwise (List.pairwise_singleton ..)
    rw [← sorted]
    exact Catalog.yields_gather (.cons (.ask (answered.answers rfl)) .nil)
  have applies : StepM.Yields invoke (StepM.each (fun participant =>
      StepM.checked .bootstrapInitializer
        (Plan.ask (.applyBootstrapInitializer participant ⟨before.stores.length⟩))) [launchStamp])
      () (before.keeping {}) (.ok ()) () _ :=
    .each_cons (.checked (.ask (answered.stampLaunch launchStamp))) .each_nil
  exact .bind (.ask BootstrapStore.yields_make) (.bind .each_nil (.bind (.check builds)
    (.bind applies (.pure _))))

/-- The bus has the publishing listener and the audit, and no phase yet. -/
theorem yields_makeBus (answered : Answered invoke) (given : List String) :
    StepM.Yields invoke ((application coordinator).makeBus given) () before (.ok (busAfter none)) ()
      before := by
  have nobody : Plan.Yields invoke (application coordinator).catalog.applicationListenersFor before
      (.ok []) before := by
    have sorted : byPrecedence ApplicationListener.order [] = [] := byPrecedence_of_pairwise .nil
    rw [← sorted]
    exact Catalog.yields_gather .nil
  have listeners : ∀ arguments : ListenerArguments, arguments.listeners = [] →
      Plan.Yields invoke ((application coordinator).catalog.runListenersFor arguments) before
        (.ok (busAfter none).listeners) before := by
    intro arguments none
    have sorted : byPrecedence RunListener.order (busAfter Option.none).listeners =
        (busAfter Option.none).listeners := byPrecedence_of_pairwise (by decide)
    rw [← sorted]
    refine Catalog.yields_gather (.cons (.ask ?_) (.cons (.ask (answered.answers rfl)) .nil))
    rw [← none]
    exact .pure _
  have sorted : byPrecedence ApplicationListener.order [] = [] := byPrecedence_of_pairwise .nil
  exact .bind (.check nobody) (.bind (.check (listeners _ sorted)) (.pure _))

/-- After making ready there are a stamped store and a bus that has told nothing. -/
theorem yields_makeReady (answered : Answered invoke) (given : List String) :
    StepM.Yields invoke ((application coordinator).makeReady given) () before
      (.ok (⟨before.stores.length⟩, busAfter none)) ()
      ((counted before).keeping (stamped before.nextInstance)) :=
  .bind (yields_makeStore answered) (.bind (.ask (.modify fun _ alike => { alike with }))
    (.bind (yields_makeBus answered given) (.pure _)))

/-! ## The listeners -/

/-- Nobody listens to the container of a notice. -/
def Unheard (world : World) : Notice → Prop
  | .starting .. => True
  | .contextPrepared container | .contextLoaded container | .started container
  | .running container =>
    (world.container container).listeners = []

/-- The publishing listener has nobody to tell, and the other one only logs. -/
theorem yields_tell (answered : Answered invoke) {notice : Notice}
    (unheard : Unheard before notice) :
    ∀ listener ∈ (busAfter none).listeners,
      Plan.Yields invoke (Plan.ask (.tell listener notice)) before (.ok ()) before := by
  have publishes : Plan.Yields invoke (Plan.ask (.tell (.eventPublishing []) notice)) before
      (.ok ()) before := by
    refine .ask ?_
    cases notice with
    | starting => exact .pure _
    | contextPrepared container => exact .bind (.container container) (.pure _)
    | contextLoaded container =>
      refine .bind (.modify fun world alike => { alike with containers := ?_ })
        (.bind (.container container) (.pure _))
      rw [World.modifyContainer, alike.containers]
      simp only [List.append_nil]
      exact List.modify_id container.index before.containers
    | started container | running container =>
      exact .bind (.container container) (Container.yields_publish unheard _)
  have audits : Plan.Yields invoke (Plan.ask (.tell (.custom audit (some 10)) notice)) before
      (.ok ()) before := by
    refine .ask ?_
    cases notice with
    | starting => exact answered.logs rfl
    | _ => exact answered.audits audit _ _
  intro listener known
  rcases List.mem_cons.1 known with rfl | known
  · exact publishes
  · rw [List.mem_singleton.1 known]
    exact audits

/-- A notice goes to both listeners without a failure, and the bus moves on to its phase. -/
theorem yields_give (answered : Answered invoke) {notice : Notice} {phase : Option LifecyclePhase}
    (follows : notice.phase.canFollow phase = true) (unheard : Unheard before notice) :
    Plan.Yields invoke ((busAfter phase).give notice) before
      { result := .ok (), bus := busAfter (some notice.phase), state := () } before := by
  have visits : ∀ listeners : List RunListener, (∀ listener ∈ listeners,
      Plan.Yields invoke (Plan.ask (.tell listener notice)) before (.ok ()) before) →
      Plan.Yields invoke (LifecycleBus.visit
        (fun _ listener => return (← Plan.ask (.tell listener notice), ())) () listeners) before
        (.ok (), ()) before := by
    intro listeners tells
    induction listeners with
    | nil => exact .pure _
    | cons listener rest ih =>
      exact .bind (.bind (tells listener (List.mem_cons_self ..)) (.pure _))
        (ih fun other among => tells other (List.mem_cons_of_mem _ among))
  exact LifecycleBus.yields_dispatch (busAfter phase) notice.phase follows rfl
    (visits _ (yields_tell answered unheard))

/-- A notice given in the course of a run. -/
theorem yields_dispatch_give (answered : Answered invoke) {notice : Notice}
    {phase : Option LifecyclePhase} {settings : Settings} {created : Option ContainerRef}
    (follows : notice.phase.canFollow phase = true) (unheard : Unheard before notice) :
    StepM.Yields invoke (LaunchM.dispatch (·.give notice))
      { bus := busAfter phase, settings, created } before (.ok ())
      { bus := busAfter (some notice.phase), settings, created } before := by
  have gives : Plan.Yields invoke ((busAfter phase).give notice) before _ before :=
    yields_give answered follows unheard
  exact LaunchM.yields_dispatch { bus := busAfter phase, settings, created } (·.give notice) gives

/-- Giving the first notice of a run takes the bus to the phase of starting. -/
theorem yields_begin (before : World) (coordinator : CoordinatorRef) (answered : Answered invoke)
    (store : StoreRef) :
    StepM.Yields invoke
      (LaunchM.dispatch (·.give (.starting store (application coordinator).mainSource)))
      { bus := busAfter none, settings := {} } before (.ok ())
      { bus := busAfter (some .starting), settings := {} } before :=
  yields_dispatch_give answered rfl trivial

/-! ## The environment -/

variable {given : List String} {arguments : Arguments}

/-- Reading the arguments answers what parsing them answers, as a fault of the launch where it
fails. -/
theorem yields_readArguments (invoke : Invoker) (before : World) (launch : Launch)
    (given : List String) :
    StepM.Yields invoke (StepM.check (fun argument => (LaunchFault.arguments argument).alone)
        (Plan.ask (.readArguments given))) launch before
      ((Arguments.parse given).mapError fun argument => (LaunchFault.arguments argument).alone)
      launch before := by
  have reads : Plan.Yields invoke (Plan.ask (.readArguments given)) before (Arguments.parse given)
      before := .ask (.pure _)
  exact .check reads

/-- The environment of the container. -/
def attached (coordinator : CoordinatorRef) (vars : List (String × String))
    (arguments : Arguments) : Environment :=
  (application coordinator).convertEnvironment settings (prepared coordinator vars arguments)

/-- The environment is shown to both listeners, the settings are bound, and what is attached follows
from them, unless an option or a variable has a reserved name. -/
theorem yields_prepareEnvironment (answered : Answered invoke) (store : StoreRef)
    (parsed : Arguments.parse given = .ok arguments) (leaves : LeavesOptions given)
    (spares : LeavesVariables before.vars) :
    StepM.Yields invoke ((application coordinator).prepareEnvironment store arguments)
      { bus := busAfter (some .starting), settings := {} } before
      (.ok (attached coordinator before.vars arguments))
      { bus := busAfter (some .environmentPrepared), settings } before := by
  have shows : Plan.Yields invoke ((busAfter (some .starting)).showEnvironment store
      (configured coordinator before.vars arguments)) before
      { result := .ok (), bus := busAfter (some .environmentPrepared),
        state := configured coordinator before.vars arguments } before := by
    have visits : Plan.Yields invoke (LifecycleBus.visit (fun environment listener =>
        Plan.ask (.showEnvironment listener store environment))
        (configured coordinator before.vars arguments) (busAfter (some .starting)).listeners) before
        (.ok (), configured coordinator before.vars arguments) before :=
      .bind (.ask (.bind (.pure _) (.pure _))) (.bind (.ask (answered.logs rfl)) (.pure _))
    exact LifecycleBus.yields_dispatch (busAfter (some .starting)) .environmentPrepared rfl rfl
      visits
  have unset : (Check.environmentPrefix (prepared coordinator before.vars arguments)).verdict =
      .ok () := by
    rw [Check.verdict, Environment.has, raw?_prepared coordinator parsed leaves spares
      Check.environmentPrefixProperty (by decide)]
    rfl
  have bound : ((Errand.bindSettings .standard (prepared coordinator before.vars arguments)
      {}).carryOut invoke).Yields before (.ok (), settings) before := by
    change (SettingsBinder.bind invoke _ _ .standard).Yields _ _ _
    rw [SettingsBinder.bind, bind_prepared coordinator parsed leaves spares]
    exact .pure _
  have binds : StepM.Yields invoke
      ((application coordinator).bindSettings (prepared coordinator before.vars arguments))
      { bus := busAfter (some .environmentPrepared), settings := {} } before (.ok ())
      { bus := busAfter (some .environmentPrepared), settings } before :=
    .bind .get (.bind (.ask bound) (.bind (.modify _) (.checked (.pure _))))
  have showsAll : StepM.Yields invoke
      (LaunchM.dispatch (·.showEnvironment store (configured coordinator before.vars arguments)))
      { bus := busAfter (some .starting), settings := {} } before
      (.ok (configured coordinator before.vars arguments))
      { bus := busAfter (some .environmentPrepared), settings := {} } before :=
    LaunchM.yields_dispatch { bus := busAfter (some .starting), settings := {} }
      (·.showEnvironment store (configured coordinator before.vars arguments)) shows
  have reads : ((Errand.readVariables).carryOut invoke).Yields before before.vars before :=
    .look fun _ alike => alike.vars
  exact .bind .get (.bind (.ask reads) (.bind showsAll (.bind (.verify unset) (.bind binds
    (.bind .get (.pure _))))))

/-- The banner that is printed. -/
def printed : PrintedBanner :=
  { banner := .standard, mainSource := some "liftoff_sample::greeting::GreetingConfig" }

/-- The standard banner is printed to the log, as nothing tells the location of another. -/
theorem yields_printBanner (before : World) (parsed : Arguments.parse given = .ok arguments)
    (leaves : LeavesOptions given) (spares : LeavesVariables before.vars) (bus : LifecycleBus) :
    StepM.Yields invoke
      ((application coordinator).printBanner (attached coordinator before.vars arguments))
      { bus, settings } before (.ok (some printed)) { bus, settings } before := by
  have unset : (attached coordinator before.vars arguments).get? Banner.locationProperty =
      none := by
    have raw : (attached coordinator before.vars arguments).raw? Banner.locationProperty = none :=
      raw?_prepared coordinator parsed leaves spares Banner.locationProperty (by decide)
    rw [Environment.get?, raw]
    rfl
  have prints : (Banner.printSelected invoke .log (attached coordinator before.vars arguments) none
      printed.mainSource).Yields before (.ok (some printed)) before := by
    unfold Banner.printSelected
    rw [if_neg (by decide), Banner.select, unset]
    exact .bind (.pure _) (.bind (.pure _) (.bind (.log _ _ _) (.pure _)))
  exact .bind .get (.checked (.ask prints))

/-! ## The container -/

/-- The container as it is made. -/
def fresh (number : Nat) : Container :=
  { id := "application-" ++ toString number, kind := .standalone }

/-- The container is made and remembered as the one of the run. -/
theorem yields_createContainer (store : BootstrapStore) (bus : LifecycleBus) :
    StepM.Yields invoke (application coordinator).createContainer { bus, settings }
      (before.keeping store) (.ok ⟨before.containers.length⟩)
      { bus, settings, created := some ⟨before.containers.length⟩ }
      ((World.keeping { before with nextContainer := before.nextContainer + 1 } store).holding
        (fresh before.nextContainer)) := by
  have makes : (Container.make .standalone).Yields (before.keeping store)
      ⟨before.containers.length⟩
      ((World.keeping { before with nextContainer := before.nextContainer + 1 } store).holding
        (fresh before.nextContainer)) := Container.yields_make .standalone
  exact .bind .get (.bind (.checked (.ask (.bind makes (.pure _)))) (.bind (.modify _) (.pure _)))

/-- Equipping the newest container changes it by the equipment only. -/
theorem yields_equip {launch : Launch} (before : World) (container : Container)
    (equipment : Equipment) :
    StepM.Yields invoke (StepM.ask (.equip ⟨before.containers.length⟩ equipment)) launch
      (before.holding container) (.ok ()) launch
      (before.holding (equipment.applyTo container)) := by
  have changes : (Act.modifyContainer ⟨before.containers.length⟩ (equipment.applyTo ·)).Yields
      (before.holding container) () (before.holding (equipment.applyTo container)) := by
    rw [← World.modifyContainer_holding before container (equipment.applyTo ·)]
    exact .modifyContainer _ _
  exact .ask changes

/-- A singleton whose name is free is registered with the newest container. -/
theorem yields_registerSingleton {launch : Launch} {container registered : Container}
    {name : String} {value : Value}
    (accepted : container.registerBean name (.value value) = .ok registered) :
    StepM.Yields invoke (Application.registerSingleton ⟨before.containers.length⟩ name value) launch
      (before.holding container) (.ok ()) launch (before.holding registered) := by
  have registers : Plan.Yields invoke
      (Plan.ask (.registerSingleton ⟨before.containers.length⟩ name value))
        (before.holding container)
      (.ok ()) (before.holding registered) := .ask (yields_registerBean accepted)
  exact .check registers

/-- The close of the bootstrap store, which hands the launch stamp to the container. -/
theorem yields_closeStore (answered : Answered invoke) (identity : Nat)
    {container registered : Container}
    (accepted : container.registerBean launchStampBean (.value (.sealed launchStampType)) =
      .ok registered) :
    Plan.Yields invoke (BootstrapStore.close ⟨before.stores.length⟩ ⟨before.containers.length⟩)
      ((before.keeping (stamped identity)).holding container) (.ok ())
      ((before.keeping (spent identity)).holding registered) := by
  have begins : (BootstrapStore.begin ⟨before.stores.length⟩).Yields
      ((before.keeping (stamped identity)).holding container) (.ok [.listener launchStamp])
      ((before.keeping { stamped identity with closed := true, closeActions := [] }).holding
        container) := by
    have closes : ((before.keeping (stamped identity)).holding container).modifyStore
        ⟨before.stores.length⟩
        (fun _ => { stamped identity with closed := true, closeActions := [] }) =
        (before.keeping { stamped identity with closed := true, closeActions := [] }).holding
          container :=
      congrArg (World.holding · container) (World.modifyStore_keeping before (stamped identity) _)
    rw [← closes]
    refine BootstrapStore.yields_begin ?_
    exact congrArg BootstrapStore.beginClose (World.store_keeping before (stamped identity))
  rw [Plan.Yields, BootstrapStore.carryOut_close]
  exact .bind begins
    (.bind (.bind (answered.handsOver launchStamp identity accepted) (.pure _)) (.pure _))

/-- The container with its environment, and with the beans that were registered up to a moment. -/
def filled (number : Nat) (environment : Environment) (held : List (String × Bean)) : Container :=
  { fresh number with environment := some environment, beans := held }

/-- The bean that is there once the bootstrap store is closed. -/
def stampBean : String × Bean := (launchStampBean, .value (.sealed launchStampType))

/-- The beans that a run registers itself. -/
def ownBeans (arguments : Arguments) : List (String × Bean) := [
  (Application.argumentsBean, .value (.arguments arguments)),
  (Application.bannerBean, .value (.banner printed))]

/-- The container once its sources are loaded. -/
def loaded (number : Nat) (environment : Environment) (arguments : Arguments) : Container :=
  { filled number environment (stampBean :: ownBeans arguments ++ beans) with
    allowOverriding := false
    sources := ["greeting"] }

/-- The only source registers its beans with the container, and its name is recorded. -/
theorem yields_loadSources (before : World) (answered : Answered invoke) {bus : LifecycleBus}
    {created : Option ContainerRef} {container registered : Container}
    (shown : container.hidesRegistry = false)
    (accepted : furnished beans container = .ok registered) :
    StepM.Yields invoke ((application coordinator).loadSources ⟨before.containers.length⟩)
      { bus, settings, created } (before.holding container) (.ok ()) { bus, settings, created }
      (before.holding (registered.registerSource "greeting")) := by
  have inspects : StepM.Yields invoke (StepM.ask (.inspect ⟨before.containers.length⟩))
      ({ bus, settings, created } : Launch) (before.holding container) (.ok container)
      { bus, settings, created } (before.holding container) := by
    have looks : (Act.container ⟨before.containers.length⟩).Yields (before.holding container)
        ((before.holding container).container ⟨before.containers.length⟩)
        (before.holding container) :=
      .container _
    rw [World.container_holding] at looks
    exact .ask looks
  have registry : (Check.registry container).verdict = .ok () := by
    rw [Check.verdict, shown]
    rfl
  have records : (Act.modifyContainer ⟨before.containers.length⟩
      (·.registerSource "greeting")).Yields (before.holding registered) ()
      (before.holding (registered.registerSource "greeting")) := by
    rw [← World.modifyContainer_holding before registered (·.registerSource "greeting")]
    exact .modifyContainer _ _
  have loads : Plan.Yields invoke (Plan.ask (.load (.sources {}) ⟨before.containers.length⟩
      (application coordinator).primarySources)) (before.holding container) (.ok ())
      (before.holding (registered.registerSource "greeting")) :=
    .ask (.bind (.bind (.bind (answered.configures configuration accepted) (.pure _))
      (.bind records (.pure _))) (.pure _))
  exact .bind .get
    (.bind (.verify rfl) (.bind inspects (.bind (.verify registry) (.checked loads))))

/-- There are no initializers to apply. -/
theorem yields_applyInitializers {launch : Launch} (container : ContainerRef) :
    StepM.Yields invoke ((application coordinator).applyInitializers container) launch before
      (.ok ())
      launch before := by
  have sorted : byPrecedence ContextInitializer.order [] = [] := byPrecedence_of_pairwise .nil
  have nobody : Plan.Yields invoke (application coordinator).catalog.contextInitializersFor before
      (.ok []) before := by
    rw [← sorted]
    exact Catalog.yields_gather .nil
  have applies : StepM.Yields invoke (StepM.each (Application.applyInitializer container)
      (byPrecedence ContextInitializer.order [])) launch before (.ok ()) launch before := by
    rw [sorted]
    exact .each_nil
  exact .bind (.check nobody) applies

/-- That the run starts goes to the log only. -/
theorem yields_logStarting {launch : Launch} (environment : Environment)
    (started : launch.settings.logStartupInfo = true) :
    StepM.Yields invoke ((application coordinator).logStarting environment) launch before (.ok ())
      launch before := by
  refine .bind .get ?_
  rw [if_pos started]
  exact .bind (.ask (.log _ _ _)) (.ask (.log _ _ _))

/-- The arguments and the banner are registered as singletons, one after the other. -/
theorem yields_registerSingletons {launch : Launch} (number : Nat) (environment : Environment)
    (arguments : Arguments) :
    StepM.Yields invoke
      (Application.registerSingletons ⟨before.containers.length⟩ arguments (some printed)) launch
      (before.holding (filled number environment [stampBean])) (.ok ()) launch
      (before.holding (filled number environment (stampBean :: ownBeans arguments))) :=
  .bind (yields_registerSingleton rfl) (yields_registerSingleton rfl)

/-- Configuring the container keeps its beans from being overridden. -/
theorem yields_configureContainer (before : World) {bus : LifecycleBus}
    {created : Option ContainerRef} (container : Container) :
    StepM.Yields invoke (Application.configureContainer ⟨before.containers.length⟩)
      { bus, settings, created } (before.holding container) (.ok ()) { bus, settings, created }
      (before.holding { container with allowOverriding := false }) :=
  .bind .get (.bind (yields_equip before container (.overriding false)) (.pure _))

/-- Preparing takes the new container to one that has its environment, its singletons and its beans.
-/
theorem yields_prepareContainer (before : World) (answered : Answered invoke)
    (number identity : Nat)
    {environment : Environment} {created : Option ContainerRef} :
    StepM.Yields invoke ((application coordinator).prepareContainer ⟨before.stores.length⟩
        ⟨before.containers.length⟩ environment arguments (some printed))
      { bus := busAfter (some .environmentPrepared), settings, created }
      ((before.keeping (stamped identity)).holding (fresh number)) (.ok ())
      { bus := busAfter (some .contextLoaded), settings, created }
      ((before.keeping (spent identity)).holding (loaded number environment arguments)) := by
  have attaches : StepM.Yields invoke
      (StepM.ask (.equip ⟨before.containers.length⟩ (.environment environment)))
      ({ bus := busAfter (some .environmentPrepared), settings, created } : Launch)
      ((before.keeping (stamped identity)).holding (fresh number)) (.ok ())
      { bus := busAfter (some .environmentPrepared), settings, created }
      ((before.keeping (stamped identity)).holding (filled number environment [])) :=
    yields_equip (before.keeping (stamped identity)) (fresh number) (.environment environment)
  have unheard (store : BootstrapStore) (container : Container)
      (nobody : container.listeners = []) :
      (World.container ((before.keeping store).holding container)
        ⟨before.containers.length⟩).listeners = [] :=
    (congrArg Container.listeners (World.container_holding (before.keeping store) container)).trans
      nobody
  have prepares : StepM.Yields invoke
      (LaunchM.dispatch (·.give (.contextPrepared ⟨before.containers.length⟩)))
      { bus := busAfter (some .environmentPrepared), settings, created }
      ((before.keeping (stamped identity)).holding (filled number environment [])) (.ok ())
      { bus := busAfter (some .contextPrepared), settings, created }
      ((before.keeping (stamped identity)).holding (filled number environment [])) :=
    yields_dispatch_give answered rfl (unheard _ _ rfl)
  have closes (launch : Launch) : StepM.Yields invoke (StepM.check BootstrapError.toLaunchError
      (BootstrapStore.close ⟨before.stores.length⟩ ⟨before.containers.length⟩)) launch
      ((before.keeping (stamped identity)).holding (filled number environment [])) (.ok ()) launch
      ((before.keeping (spent identity)).holding (filled number environment [stampBean])) :=
    .check (yields_closeStore answered identity rfl)
  have loads (bus : LifecycleBus) : StepM.Yields invoke
      ((application coordinator).loadSources ⟨before.containers.length⟩) { bus, settings, created }
      ((before.keeping (spent identity)).holding
        { filled number environment (stampBean :: ownBeans arguments) with
          allowOverriding := false }) (.ok ()) { bus, settings, created }
      ((before.keeping (spent identity)).holding (loaded number environment arguments)) := by
    have accepted : furnished beans
        { filled number environment (stampBean :: ownBeans arguments) with
          allowOverriding := false } =
        .ok { loaded number environment arguments with sources := [] } := rfl
    exact yields_loadSources (before.keeping (spent identity)) answered rfl accepted
  have ends : StepM.Yields invoke
      (LaunchM.dispatch (·.give (.contextLoaded ⟨before.containers.length⟩)))
      { bus := busAfter (some .contextPrepared), settings, created }
      ((before.keeping (spent identity)).holding (loaded number environment arguments)) (.ok ())
      { bus := busAfter (some .contextLoaded), settings, created }
      ((before.keeping (spent identity)).holding (loaded number environment arguments)) :=
    yields_dispatch_give answered rfl (unheard _ _ rfl)
  exact .bind attaches (.bind (.pure _) (.bind (yields_applyInitializers _) (.bind prepares
    (.bind (closes _) (.bind (yields_logStarting _ rfl) (.bind (yields_registerSingletons _ _ _)
      (.bind (yields_configureContainer (before.keeping (spent identity)) _)
        (.bind (loads _) ends))))))))

end Greeting

end Launchpad
