import Launchpad.Proofs.Launch.Following

/-!
# The steps of a run follow the itinerary

Each step of a run follows its part of the itinerary, for whatever is found in it. What a step
leaves in the state of the run is stated along with its order, so that the parts join.
-/

namespace Launchpad

open Plan

namespace Catalog

variable {Factory Product : Type} {capability : String}
  {build : String → Factory → Plan (Except Failure Product)} {construction : Factory → Construction}
  {finding : Product → Finding}

/-- The factories are called in the order of declaration. -/
theorem buildAll_follows
    (builds : ∀ name factory, (build name factory).Follows
      (failureOf (LaunchFault.plugin capability name).dueTo) fun order answer =>
        ∃ product, answer = .ok product ∧
          order = [{ station := .factory name (construction factory), finding := finding product }])
    (entries : List (String × Factory)) :
    (Declarations.buildAll capability (fun entry => build entry.1 entry.2)
      (entries.map fun entry => (entry.1, entry))).Follows
      (failureOf PluginError.toLaunchError) fun order answer =>
        ∃ built : List Product, built.length = entries.length ∧ answer = .ok built ∧
          order = factoryStops ⟨entries⟩ construction finding built := by
  induction entries with
  | nil =>
    refine (Follows.ofPure rfl).mono ?_
    rintro _ _ ⟨rfl, rfl⟩
    exact ⟨[], rfl, rfl, rfl⟩
  | cons entry rest ih =>
    refine (builds entry.1 entry.2).bind ?_ ?_
    · rintro _ _ ⟨product, rfl, rfl⟩
      refine ih.bind ?_ ?_
      · rintro _ _ ⟨built, length, rfl, rfl⟩
        refine (Follows.ofPure rfl).mono ?_
        rintro _ _ ⟨rfl, rfl⟩
        exact ⟨product :: built, by simp [length], rfl, by simp [factoryStops]⟩
      · rintro (failure | built) error wrong
        · exact .ofPure wrong
        · cases wrong
    · rintro (cause | product) error wrong
      · exact .ofPure wrong
      · cases wrong

/-- The instances of a capability are built in the order of declaration and sorted by precedence. -/
theorem gather_follows {declarations : Declarations Factory} {rank : Product → Order}
    (builds : ∀ name factory, (build name factory).Follows
      (failureOf (LaunchFault.plugin capability name).dueTo) fun order answer =>
        ∃ product, answer = .ok product ∧
          order =
            [{ station := .factory name (construction factory), finding := finding product }]) :
    (gather declarations capability build rank).Follows (failureOf PluginError.toLaunchError)
      fun order answer => ∃ sorted, answer = .ok sorted ∧
        ∃ built : List.Vector Product declarations.entries.length,
          sorted = byPrecedence rank built.toList ∧
          order = factoryStops declarations construction finding built.toList := by
  refine (buildAll_follows builds declarations.entries).bind ?_ ?_
  · rintro _ _ ⟨built, length, rfl, rfl⟩
    refine (Follows.ofPure rfl).mono ?_
    rintro _ _ ⟨rfl, rfl⟩
    exact ⟨_, rfl, ⟨built, length⟩, rfl, by simp [List.Vector.toList]⟩
  · rintro (failure | built) error wrong
    · exact .ofPure wrong
    · cases wrong

/-- The bootstrap initializers are built in the order of declaration and sorted by precedence. -/
theorem bootstrapInitializersFor_follows (catalog : Catalog) :
    catalog.bootstrapInitializersFor.Follows (failureOf PluginError.toLaunchError)
      fun order answer => ∃ sorted, answer = .ok sorted ∧
        ∃ built : List.Vector Participant catalog.bootstrapInitializers.entries.length,
          sorted = byPrecedence (fun _ => none) built.toList ∧
          order = factoryStops catalog.bootstrapInitializers .bootstrapInitializer
            .bootstrapInitializer built.toList :=
  gather_follows fun name factory =>
    .ofCall (.build name (.bootstrapInitializer factory)) id rfl (by rintro (_ | _) <;> rfl)
      ⟨.ok default, _, rfl⟩

/-- The application listeners are built in the order of declaration and sorted by precedence. -/
theorem applicationListenersFor_follows (catalog : Catalog) :
    catalog.applicationListenersFor.Follows (failureOf PluginError.toLaunchError)
      fun order answer => ∃ sorted, answer = .ok sorted ∧
        ∃ built : List.Vector ApplicationListener catalog.applicationListeners.entries.length,
          sorted = byPrecedence (·.order) built.toList ∧
          order = factoryStops catalog.applicationListeners .applicationListener
            .applicationListener built.toList :=
  gather_follows fun name factory =>
    .ofCall (.build name (.applicationListener factory)) id rfl (by rintro (_ | _) <;> rfl)
      ⟨.ok ⟨default, none⟩, _, rfl⟩

/-- The run listeners are built in the order of declaration and sorted by precedence. -/
theorem runListenersFor_follows (catalog : Catalog) (arguments : ListenerArguments) :
    (catalog.runListenersFor arguments).Follows (failureOf PluginError.toLaunchError)
      fun order answer => ∃ sorted, answer = .ok sorted ∧
        ∃ built : List.Vector RunListener catalog.runListeners.entries.length,
          sorted = byPrecedence RunListener.order built.toList ∧
          order = factoryStops catalog.runListeners (.runListener · arguments) .runListener
            built.toList :=
  gather_follows fun name factory =>
    .ofCall (.build name (.runListener factory arguments)) id rfl (by rintro (_ | _) <;> rfl)
      ⟨.ok (.recorder none none), _, rfl⟩

/-- The context initializers are built in the order of declaration and sorted by precedence. -/
theorem contextInitializersFor_follows (catalog : Catalog) :
    catalog.contextInitializersFor.Follows (failureOf PluginError.toLaunchError)
      fun order answer => ∃ sorted, answer = .ok sorted ∧
        ∃ built : List.Vector ContextInitializer catalog.contextInitializers.entries.length,
          sorted = byPrecedence (·.order) built.toList ∧
          order = factoryStops catalog.contextInitializers .contextInitializer
            .contextInitializer built.toList :=
  gather_follows fun name factory =>
    .ofCall (.build name (.contextInitializer factory)) id rfl (by rintro (_ | _) <;> rfl)
      ⟨.ok ⟨default, "", none, none⟩, _, rfl⟩

end Catalog

namespace LifecycleBus

variable {σ : Type} {fault : LaunchFault} {station : RunListener → Station}
  {call : σ → RunListener → Plan (Except Failure Unit × σ)}

/-- The listeners are called in order. -/
theorem visit_follows
    (calls : ∀ state listener, (call state listener).Follows
      (fun answer => failureOf fault.dueTo answer.1) fun order answer =>
        answer.1 = .ok () ∧ order = [{ station := station listener }])
    (state : σ) (listeners : List RunListener) :
    (visit call state listeners).Follows (fun answer => failureOf fault.dueTo answer.1)
      fun order answer => answer.1 = .ok () ∧
        order = listeners.map fun listener => { station := station listener } := by
  induction listeners generalizing state with
  | nil => exact (Follows.ofPure rfl).mono fun _ _ ⟨empty, same⟩ => ⟨same ▸ rfl, empty⟩
  | cons listener rest ih =>
    refine (calls state listener).bind ?_ ?_
    · rintro _ ⟨_, between⟩ ⟨rfl, rfl⟩
      refine (ih between).mono ?_
      rintro _ _ ⟨fine, rfl⟩
      exact ⟨fine, rfl⟩
    · rintro ⟨failure | _, between⟩ error wrong
      · exact .ofPure wrong
      · cases wrong

/-- The tags of a step are no stations and no milestones. -/
theorem tagAll_quiet (startup : Startup) (step : StartupStep) (tags : List (String × String)) :
    (tagAll startup step tags).Quiet fun milestones _ => milestones = [] := by
  induction tags generalizing step with
  | nil => exact .ofPure rfl
  | cons tag rest ih =>
    refine (Quiet.ofAsk rfl).bind ?_
    rintro _ step rfl
    exact ih step

/-- A phase that may be entered is entered, and then the listeners are called in order. -/
theorem dispatch_follows {bus : LifecycleBus} {phase : LifecyclePhase}
    (enters : phase.canFollow bus.phase = true) (tags : List (String × String)) (state : σ)
    (regular : phase ≠ .failed)
    (calls : ∀ state listener, (call state listener).Follows
      (fun answer => failureOf (LaunchFault.listener phase).dueTo answer.1) fun order answer =>
        answer.1 = .ok () ∧ order = [{ station := station listener }]) :
    (bus.dispatch phase tags state call).Follows (fun dispatched => failureOf id dispatched.result)
      fun order dispatched => dispatched.result = .ok () ∧
        dispatched.bus = { bus with phase := some phase } ∧
        order = { station := .phase phase } ::
          bus.listeners.map fun listener => { station := station listener } := by
  unfold dispatch
  rw [enters]
  have known : (Errand.enterPhase bus.startup phase).station? = some (.phase phase) := by
    cases phase <;> first | rfl | exact absurd rfl regular
  refine (Follows.ofStation known ⟨default, .nothing, rfl⟩).bind ?_ nofun
  rintro _ step ⟨finding, found, rfl⟩
  cases found
  have measured : (tagAll bus.startup step tags).Follows (fun _ => none) _ :=
    .ofQuiet ((tagAll_quiet _ _ _).mono fun _ _ _ => trivial) (fun _ _ => rfl) ⟨step, trivial⟩
  refine measured.bind ?_ nofun
  rintro _ step ⟨rfl, -⟩
  refine (visit_follows calls state bus.listeners).bind ?_ ?_
  · rintro _ ⟨result, last⟩ ⟨rfl, rfl⟩
    have ended : (ask (.leavePhase bus.startup step)).Follows (fun _ => none) _ :=
      .ofQuiet ((Quiet.ofAsk rfl).mono fun _ _ _ => trivial) (fun _ _ => rfl) ⟨(), trivial⟩
    refine ended.bind ?_ nofun
    rintro _ _ ⟨rfl, -⟩
    refine (Follows.ofPure rfl).mono ?_
    rintro _ _ ⟨rfl, rfl⟩
    exact ⟨rfl, rfl, by simp⟩
  · rintro ⟨failure | _, last⟩ error wrong
    · exact (Quiet.ofAsk rfl).bind fun _ _ _ => .ofPure wrong
    · cases wrong

/-- The listeners get a notice in its phase. -/
theorem give_follows {bus : LifecycleBus} {notice : Notice}
    (enters : notice.phase.canFollow bus.phase = true) :
    (bus.give notice).Follows (fun dispatched => failureOf id dispatched.result)
      fun order dispatched => dispatched.result = .ok () ∧
        dispatched.bus = { bus with phase := some notice.phase } ∧
        order = noticeStops bus.listeners notice := by
  refine dispatch_follows enters _ _ (by cases notice <;> nofun) ?_
  intro _ listener
  refine (Follows.ofCall (.tell listener notice) id rfl (by rintro (_ | _) <;> rfl)
    ⟨.ok (), (), rfl⟩).bind ?_ ?_
  · rintro _ _ ⟨_, rfl, rfl⟩
    exact (Follows.ofPure rfl).mono fun _ _ ⟨empty, same⟩ => ⟨same ▸ rfl, by rw [empty]; rfl⟩
  · rintro (failure | _) error wrong
    · exact .ofPure wrong
    · cases wrong

/-- The environment is shown to the listeners. -/
theorem showEnvironment_follows {bus : LifecycleBus}
    (enters : bus.phase = some .starting) (store : StoreRef) (environment : Environment) :
    (bus.showEnvironment store environment).Follows
      (fun dispatched => failureOf id dispatched.result)
      fun order dispatched => dispatched.result = .ok () ∧
        dispatched.bus = { bus with phase := some .environmentPrepared } ∧
        order = { station := .phase .environmentPrepared } ::
          bus.listeners.map fun listener => { station := .environment listener store } := by
  refine dispatch_follows (by rw [enters]; rfl) _ _ nofun ?_
  intro shown listener
  have known : (Errand.showEnvironment listener store shown).station? =
      some (.environment listener store) := rfl
  have follows := Follows.ofStation known ⟨(.ok (), shown), .nothing, rfl⟩
  have sameError : (Errand.showEnvironment listener store shown).error? =
      fun answer => failureOf (LaunchFault.listener .environmentPrepared).dueTo answer.1 := by
    funext ⟨result, environment⟩
    cases result <;> rfl
  rw [sameError] at follows
  refine follows.mono ?_
  rintro _ ⟨_ | _, environment⟩ ⟨finding, found, rfl⟩ <;> cases found
  exact ⟨rfl, rfl⟩

end LifecycleBus

open StepM

namespace LaunchM

variable {σ : Type} {launch : Launch}

/-- Dispatching a phase moves the bus of the run on. -/
theorem dispatch_follows {plan : LifecycleBus → Plan (LifecycleBus.Dispatched σ)}
    {after : LifecycleBus} {stops : List Stop}
    (follows : (plan launch.bus).Follows (fun dispatched => failureOf id dispatched.result)
      fun order dispatched => dispatched.result = .ok () ∧ dispatched.bus = after ∧
        order = stops) :
    StepM.Follows (dispatch plan) launch fun order _ last =>
      last = { launch with bus := after } ∧ order = stops := by
  unfold StepM.Follows
  rw [run_dispatch]
  refine follows.bind ?_ ?_
  · rintro _ ⟨_, _, state⟩ ⟨rfl, rfl, rfl⟩
    refine (Plan.Follows.ofPure rfl).mono ?_
    rintro _ _ ⟨rfl, rfl⟩
    exact ⟨state, _, rfl, rfl, by simp⟩
  · rintro ⟨failure | _, _, _⟩ error wrong
    · exact .ofPure wrong
    · cases wrong

end LaunchM

/-- The close actions are run in the order of registration. -/
theorem BootstrapStore.close_follows (store : StoreRef) (container : ContainerRef) :
    (BootstrapStore.close store container).Follows (failureOf BootstrapError.toLaunchError)
      fun order answer => ∃ value, answer = .ok value ∧
        ∃ actions, order = Application.closeStops store container actions := by
  have begun : (Plan.ask (.beginCloseStore store)).Follows
      (failureOf fun fault => (LaunchFault.bootstrap fault).alone) _ :=
    .ofCall (.beginCloseStore store) id rfl (by rintro (_ | _) <;> rfl) ⟨.ok [], _, rfl⟩
  refine begun.bind ?_ ?_
  · rintro _ _ ⟨actions, rfl, rfl⟩
    have runs : ∀ action ∈ actions, (Plan.ask (.runCloseAction store container action)).Follows
        (failureOf (LaunchFault.bootstrap .closeListener).dueTo) fun order answer =>
          answer = .ok () ∧ order = [{ station := .closeAction store container action }] :=
      fun action _ => (Plan.Follows.ofCall (.runCloseAction store container action) id rfl
        (by rintro (_ | _) <;> rfl) ⟨.ok (), (), rfl⟩).mono fun _ _ ⟨_, same⟩ => same
    refine (Plan.Follows.untilFailure actions runs).bind ?_ ?_
    · rintro _ _ ⟨rfl, rfl⟩
      refine (Plan.Follows.ofPure rfl).mono ?_
      rintro _ _ ⟨rfl, rfl⟩
      exact ⟨(), rfl, actions, by simp [Application.closeStops, List.map_eq_flatMap]⟩
    · rintro (failure | _) error wrong
      · exact (Quiet.ofAsk rfl).bind fun _ _ _ => .ofPure wrong
      · cases wrong
  · rintro (fault | actions) error wrong
    · exact .ofPure wrong
    · cases wrong

namespace Application
open StepM.Follows

variable (application : Application)

/-- The store is made, and the bootstrap initializers are built and called on it. -/
theorem makeStore_follows :
    StepM.Follows application.makeStore () fun order store _ =>
      ∃ built : List.Vector Participant application.catalog.bootstrapInitializers.entries.length,
        order = application.storeStops store built.toList := by
  have applies : ∀ store participant, StepM.Follows
      (checked .bootstrapInitializer (Plan.ask (.applyBootstrapInitializer participant store))) ()
      fun order _ last => last = () ∧
        order = [{ station := .bootstrapInitializer participant store }] := fun store participant =>
    ofCheck (.ofCall (.applyBootstrapInitializer participant store) id rfl
      (by rintro (_ | _) <;> rfl) ⟨.ok (), (), rfl⟩)
  refine bind (ofFind rfl fun _ => rfl) ?_
  rintro _ store _ ⟨-, rfl⟩
  refine bind (each application.bootstrapInitializers fun item _ => applies store item) ?_
  rintro _ _ _ ⟨-, rfl⟩
  refine bind (ofCheck application.catalog.bootstrapInitializersFor_follows) ?_
  rintro _ _ _ ⟨-, built, rfl, rfl⟩
  refine bind (each _ fun item _ => applies store item) ?_
  rintro _ _ _ ⟨-, rfl⟩
  refine mono (ofPure store) ?_
  rintro _ _ _ ⟨rfl, rfl, -⟩
  exact ⟨built, by simp [storeStops, List.map_eq_flatMap]⟩

/-- Before there is a bus the application listeners and the run listeners are built. -/
theorem makeBus_follows (given : List String) :
    StepM.Follows (application.makeBus given) () fun order bus _ =>
      ∃ (listeners : List.Vector ApplicationListener
          application.catalog.applicationListeners.entries.length)
        (runListeners : List.Vector RunListener application.catalog.runListeners.entries.length),
        bus = { listeners := byPrecedence RunListener.order runListeners.toList,
                startup := application.startup } ∧
        order = application.busStops given listeners.toList runListeners.toList := by
  refine bind (ofCheck application.catalog.applicationListenersFor_follows) ?_
  rintro _ _ _ ⟨-, listeners, rfl, rfl⟩
  refine bind (ofCheck (application.catalog.runListenersFor_follows _)) ?_
  rintro _ _ _ ⟨-, runListeners, rfl, rfl⟩
  refine mono (ofPure _) ?_
  rintro _ _ _ ⟨rfl, rfl, -⟩
  exact ⟨listeners, runListeners, rfl, by simp [busStops, listenerArguments]⟩

/-- What happens before there is a bus follows its part of the itinerary. -/
theorem makeReady_follows (given : List String) :
    StepM.Follows (application.makeReady given) () fun order ready _ =>
      ∃ gathered : Gathered application, ready = (gathered.store, gatheredBus gathered) ∧
        order = readyStops given gathered := by
  refine bind application.makeStore_follows ?_
  rintro _ store _ ⟨initializers, rfl⟩
  refine bind (ofAsk rfl) ?_
  rintro _ _ _ ⟨-, rfl⟩
  refine bind (application.makeBus_follows given) ?_
  rintro _ _ _ ⟨listeners, runListeners, rfl, rfl⟩
  refine mono (ofPure _) ?_
  rintro _ _ _ ⟨rfl, rfl, -⟩
  exact ⟨⟨store, initializers, listeners, runListeners⟩, rfl, by simp [readyStops]⟩

variable {application} {launch : Launch}

/-- Binding the settings is one errand, and the state takes the settings that it leaves. -/
theorem run_bindSettings (environment : Environment) :
    (application.bindSettings environment).run.run launch =
      Plan.ask (.bindSettings application.binder environment launch.settings) >>= fun answer =>
        pure (answer.1.mapError LaunchFault.binding.dueTo,
          { launch with settings := answer.2 }) := by
  change (StepM.ask (.bindSettings application.binder environment launch.settings) >>= _ :
    LaunchM Unit).run.run launch = _
  rw [StepM.ask, run_bind, run_act, bind_assoc]
  congr
  funext ⟨result, _⟩
  cases result <;> rfl

/-- Binding the settings is one stop, and replaces them. -/
theorem bindSettings_follows (environment : Environment) :
    StepM.Follows (application.bindSettings environment) launch fun order _ last =>
      ∃ settings, last = { launch with settings } ∧
        order = [{ station := .binding application.binder, finding := .settings settings }] := by
  let errand := Errand.bindSettings application.binder environment launch.settings
  have known : errand.station? = some (.binding application.binder) := rfl
  unfold StepM.Follows
  rw [run_bindSettings]
  refine (Plan.Follows.ofStation known ⟨(.ok (), launch.settings), _, rfl⟩).bind ?_ ?_
  · rintro _ ⟨_ | _, settings⟩ ⟨finding, found, rfl⟩ <;> cases found
    refine (Plan.Follows.ofPure rfl).mono ?_
    rintro _ _ ⟨rfl, rfl⟩
    exact ⟨(), _, rfl, settings, rfl, rfl⟩
  · rintro ⟨failure | _, settings⟩ error wrong
    · exact .ofPure wrong
    · cases wrong

/-- The environment is shown to every run listener, and then the settings are bound to it. -/
theorem prepareEnvironment_follows (starting : launch.bus.phase = some .starting)
    (store : StoreRef) (arguments : Arguments) :
    StepM.Follows (application.prepareEnvironment store arguments) launch fun order _ last =>
      ∃ settings, last = { launch with
          settings, bus := { launch.bus with phase := some .environmentPrepared } } ∧
        order = application.environmentStops launch.bus.listeners store settings := by
  refine bind ofGet ?_
  rintro _ _ _ ⟨rfl, rfl, rfl⟩
  refine bind (ofAsk rfl) ?_
  rintro _ vars _ ⟨rfl, rfl⟩
  refine bind (LaunchM.dispatch_follows (LifecycleBus.showEnvironment_follows starting store _)) ?_
  rintro _ shown _ ⟨rfl, rfl⟩
  refine bind (ofCheck (.ofCall (.check (.environmentPrefix _)) id rfl
    (by rintro (_ | _) <;> rfl) ⟨.ok (), (), rfl⟩)) ?_
  rintro _ _ _ ⟨rfl, rfl⟩
  refine bind (bindSettings_follows _) ?_
  rintro _ _ _ ⟨settings, rfl, rfl⟩
  refine bind ofGet ?_
  rintro _ _ _ ⟨rfl, rfl, rfl⟩
  refine mono (ofPure _) ?_
  rintro _ _ _ ⟨rfl, -, rfl⟩
  exact ⟨settings, rfl, by simp [environmentStops]⟩

/-- Showing the banner is one stop. -/
theorem printBanner_follows (environment : Environment) :
    StepM.Follows (application.printBanner environment) launch fun order printed last =>
      last = launch ∧
        order = [{ station := .banner application.banner, finding := .banner printed }] := by
  refine bind ofGet ?_
  rintro _ _ _ ⟨rfl, rfl, rfl⟩
  exact ofCheck (.ofCall (.printBanner ..) id rfl (by rintro (_ | _) <;> rfl) ⟨.ok none, _, rfl⟩)

/-- The container is created at one stop, and the run knows it from then on. -/
theorem createContainer_follows :
    StepM.Follows application.createContainer launch fun order container last =>
      last = { launch with created := some container } ∧
        order = [{
          station := .containerFactory application.factory (application.kindUnder launch.settings)
          finding := .container container }] := by
  refine bind ofGet ?_
  rintro _ _ _ ⟨rfl, rfl, rfl⟩
  refine bind (ofCheck (.ofCall (.createContainer ..) id rfl (by rintro (_ | _) <;> rfl)
    ⟨.ok ⟨0⟩, _, rfl⟩)) ?_
  rintro _ container _ ⟨rfl, rfl⟩
  refine bind (ofModify _) ?_
  rintro _ _ _ ⟨rfl, rfl⟩
  refine mono (ofPure _) ?_
  rintro _ _ _ ⟨rfl, rfl, rfl⟩
  exact ⟨rfl, rfl⟩

/-- The hooks of the application, if it has any, process the container. -/
theorem postProcess_follows (container : ContainerRef) :
    StepM.Follows (application.postProcess container) launch fun order _ last =>
      last = launch ∧ order = application.hooks.toList.map fun hooks =>
        { station := .postProcess hooks container } := by
  unfold postProcess
  cases application.hooks with
  | none => exact mono (ofPure ()) fun _ _ _ ⟨empty, _, same⟩ => ⟨same, empty⟩
  | some hooks =>
    exact ofCheck (.ofCall (.postProcess hooks container) id rfl (by rintro (_ | _) <;> rfl)
      ⟨.ok (), (), rfl⟩)

/-- An initializer is applied at one stop. -/
theorem applyInitializer_follows (container : ContainerRef) (initializer : ContextInitializer) :
    StepM.Follows (applyInitializer container initializer) launch fun order _ last =>
      last = launch ∧ order =
        [{ station := .kindCheck initializer },
         { station := .contextInitializer initializer container }] := by
  have : Nonempty (Errand.inspect container).Answer := ⟨(default : Container)⟩
  refine bind (ofAsk rfl) ?_
  rintro _ inspected _ ⟨rfl, rfl⟩
  refine bind (ofCheck (.ofCall (.check (.kind initializer _)) id rfl
    (by rintro (_ | _) <;> rfl) ⟨.ok (), (), rfl⟩)) ?_
  rintro _ _ _ ⟨rfl, rfl⟩
  refine mono (ofCheck (.ofCall (.applyContextInitializer initializer container) id rfl
    (by rintro (_ | _) <;> rfl) ⟨.ok (), (), rfl⟩)) ?_
  rintro _ _ _ ⟨rfl, rfl⟩
  exact ⟨rfl, rfl⟩

/-- The context initializers are built and applied, by precedence with those that were added before.
-/
theorem applyInitializers_follows (container : ContainerRef) :
    StepM.Follows (application.applyInitializers container) launch fun order _ last =>
      last = launch ∧ ∃ built : List.Vector ContextInitializer
          application.catalog.contextInitializers.entries.length,
        order = application.initializerStops container built.toList := by
  refine bind (ofCheck application.catalog.contextInitializersFor_follows) ?_
  rintro _ _ _ ⟨rfl, built, rfl, rfl⟩
  refine mono (each _ fun initializer _ => applyInitializer_follows container initializer) ?_
  rintro _ _ _ ⟨rfl, rfl⟩
  exact ⟨rfl, built, rfl⟩

/-- A log line is no stop. -/
theorem logInfo_follows (message : String) :
    StepM.Follows (application.logInfo message) launch fun order _ last =>
      last = launch ∧ order = [] := ofAsk rfl

/-- The line that announces the start is no stop. -/
theorem logStarting_follows (environment : Environment) :
    StepM.Follows (application.logStarting environment) launch fun order _ last =>
      last = launch ∧ order = [] := by
  refine bind ofGet ?_
  rintro _ _ _ ⟨rfl, rfl, rfl⟩
  split
  · refine bind (logInfo_follows _) ?_
    rintro _ _ _ ⟨rfl, rfl⟩
    exact logInfo_follows _
  · exact mono (ofPure ()) fun _ _ _ ⟨empty, _, same⟩ => ⟨same, empty⟩

/-- A singleton is registered at one stop. -/
theorem registerSingleton_follows (container : ContainerRef) (name : String) (value : Value) :
    StepM.Follows (registerSingleton container name value) launch fun order _ last =>
      last = launch ∧ order = [{ station := .singleton container name }] :=
  ofCheck (.ofCall (.registerSingleton container name value) id rfl (by rintro (_ | _) <;> rfl)
    ⟨.ok (), (), rfl⟩)

/-- The arguments are registered, and the banner if there is one. -/
theorem registerSingletons_follows (container : ContainerRef) (arguments : Arguments)
    (banner : Option PrintedBanner) :
    StepM.Follows (registerSingletons container arguments banner) launch fun order _ last =>
      last = launch ∧ order = singletonStops container banner := by
  refine bind (registerSingleton_follows _ _ _) ?_
  rintro _ _ _ ⟨rfl, rfl⟩
  cases banner with
  | none =>
    refine mono (ofPure ()) ?_
    rintro _ _ _ ⟨rfl, -, rfl⟩
    exact ⟨rfl, rfl⟩
  | some banner =>
    refine mono (registerSingleton_follows _ _ _) ?_
    rintro _ _ _ ⟨rfl, rfl⟩
    exact ⟨rfl, rfl⟩

/-- What a container is equipped with is no stop. -/
theorem equip_follows (container : ContainerRef) (equipment : Equipment) :
    StepM.Follows (StepM.ask (.equip container equipment) : LaunchM Unit) launch fun order _ last =>
      last = launch ∧ order = [] := ofAsk rfl

/-- Configuring the container is no stop. -/
theorem configureContainer_follows (container : ContainerRef) :
    StepM.Follows (configureContainer container) launch fun order _ last =>
      last = launch ∧ order = [] := by
  refine bind ofGet ?_
  rintro _ _ _ ⟨rfl, rfl, rfl⟩
  dsimp only
  refine bind (equip_follows _ _) ?_
  rintro _ _ _ ⟨rfl, rfl⟩
  split
  · exact equip_follows _ _
  · exact mono (ofPure ()) fun _ _ _ ⟨empty, _, same⟩ => ⟨same, empty⟩

/-- The sources are loaded at one stop, if there are any. -/
theorem loadSources_follows (container : ContainerRef) :
    StepM.Follows (application.loadSources container) launch fun order _ last =>
      last = launch ∧ order = application.loadStops container launch.settings := by
  refine bind ofGet ?_
  rintro _ _ _ ⟨rfl, rfl, rfl⟩
  dsimp only
  refine bind (ofCheck (.ofCall (.check (.sources _)) id rfl
    (by rintro (_ | _) <;> rfl) ⟨.ok (), (), rfl⟩)) ?_
  rintro _ _ _ ⟨rfl, rfl⟩
  have : Nonempty (Errand.inspect container).Answer := ⟨(default : Container)⟩
  refine bind (ofAsk rfl) ?_
  rintro _ _ _ ⟨rfl, rfl⟩
  refine bind (ofCheck (.ofCall (.check (.registry _)) id rfl
    (by rintro (_ | _) <;> rfl) ⟨.ok (), (), rfl⟩)) ?_
  rintro _ _ _ ⟨rfl, rfl⟩
  refine mono (ofCheck (.ofCall (.load application.loader container _) id rfl
    (by rintro (_ | _) <;> rfl) ⟨.ok (), (), rfl⟩)) ?_
  rintro _ _ _ ⟨rfl, rfl⟩
  exact ⟨rfl, rfl⟩

/-- The container is prepared: equipped, processed, initialized and loaded, and the listeners are
told of it. -/
theorem prepareContainer_follows (shown : launch.bus.phase = some .environmentPrepared)
    (store : StoreRef) (container : ContainerRef) (environment : Environment)
    (arguments : Arguments) (banner : Option PrintedBanner) :
    StepM.Follows
      (application.prepareContainer store container environment arguments banner) launch
      fun order _ last =>
        last = { launch with bus := { launch.bus with phase := some .contextLoaded } } ∧
        ∃ (built : List.Vector ContextInitializer
            application.catalog.contextInitializers.entries.length) (actions : List CloseAction),
          order = application.preparationStops launch.bus.listeners store container launch.settings
            banner built.toList actions := by
  refine bind (equip_follows _ _) ?_
  rintro _ _ _ ⟨rfl, rfl⟩
  refine bind (postProcess_follows _) ?_
  rintro _ _ _ ⟨rfl, rfl⟩
  refine bind (applyInitializers_follows _) ?_
  rintro _ _ _ ⟨rfl, built, rfl⟩
  refine bind (LaunchM.dispatch_follows (LifecycleBus.give_follows (by rw [shown]; rfl))) ?_
  rintro _ _ _ ⟨rfl, rfl⟩
  refine bind (ofCheck (BootstrapStore.close_follows store container)) ?_
  rintro _ _ _ ⟨rfl, actions, rfl⟩
  refine bind (logStarting_follows _) ?_
  rintro _ _ _ ⟨rfl, rfl⟩
  refine bind (registerSingletons_follows _ _ _) ?_
  rintro _ _ _ ⟨rfl, rfl⟩
  refine bind (configureContainer_follows _) ?_
  rintro _ _ _ ⟨rfl, rfl⟩
  refine bind (loadSources_follows _) ?_
  rintro _ _ _ ⟨rfl, rfl⟩
  refine mono (LaunchM.dispatch_follows (LifecycleBus.give_follows rfl)) ?_
  rintro _ _ _ ⟨rfl, rfl⟩
  exact ⟨rfl, built, actions, by simp [preparationStops]⟩

/-- The container is registered for a shutdown at one stop, if the settings say so. -/
theorem registerForShutdown_follows (container : ContainerRef) :
    StepM.Follows (application.registerForShutdown container) launch fun order _ last =>
      last = launch ∧ order = application.shutdownStops container launch.settings := by
  let errand := Errand.registerForShutdown application.coordinator container
  have known : errand.station? = some (.shutdownRegistration application.coordinator container) :=
    rfl
  refine bind ofGet ?_
  rintro _ _ _ ⟨rfl, rfl, rfl⟩
  unfold shutdownStops
  split
  · unfold StepM.Follows
    rw [run_bind, StepM.ask, run_act, bind_assoc]
    refine (Plan.Follows.ofStation known ⟨true, _, rfl⟩).bind ?_ ?_
    · rintro _ (_ | _) ⟨finding, found, rfl⟩ <;> cases found
      refine (Plan.Follows.ofPure rfl).mono ?_
      rintro _ _ ⟨rfl, rfl⟩
      exact ⟨(), _, rfl, rfl, rfl⟩
    · rintro (_ | _) error wrong
      · exact .ofPure wrong
      · cases wrong
  · exact mono (ofPure ()) fun _ _ _ ⟨empty, _, same⟩ => ⟨same, empty⟩

/-- The hooks of the application, if it has any, are told that the container is refreshed. -/
theorem afterRefresh_follows (container : ContainerRef) (arguments : Arguments) :
    StepM.Follows (application.afterRefresh container arguments) launch fun order _ last =>
      last = launch ∧ order = application.hooks.toList.map fun hooks =>
        { station := .afterRefresh hooks container } := by
  unfold afterRefresh
  cases application.hooks with
  | none => exact mono (ofPure ()) fun _ _ _ ⟨empty, _, same⟩ => ⟨same, empty⟩
  | some hooks =>
    exact ofCheck (.ofCall (.afterRefresh hooks container arguments) id rfl
      (by rintro (_ | _) <;> rfl) ⟨.ok (), (), rfl⟩)

/-- The line that announces that the start is over is no stop. -/
theorem logStarted_follows :
    StepM.Follows application.logStarted launch fun order _ last =>
      last = launch ∧ order = [] := by
  refine bind ofGet ?_
  rintro _ _ _ ⟨rfl, rfl, rfl⟩
  split
  · exact logInfo_follows _
  · exact mono (ofPure ()) fun _ _ _ ⟨empty, _, same⟩ => ⟨same, empty⟩

/-- The runners are called in the order in which they were found. -/
theorem callRunners_follows (container : ContainerRef) (arguments : Arguments) :
    StepM.Follows (callRunners container arguments) launch fun order _ last =>
      last = launch ∧ ∃ runners, order = runnerStops container runners := by
  have calls : ∀ runner, StepM.Follows
      (checked (.runner runner.kind.name) (Plan.ask (.callRunner runner arguments))) launch
      fun order _ last => last = launch ∧ order = [{ station := .runner runner }] :=
    fun runner => ofCheck (.ofCall (.callRunner runner arguments) id rfl
      (by rintro (_ | _) <;> rfl) ⟨.ok (), (), rfl⟩)
  refine bind (ofFind rfl fun _ => rfl) ?_
  rintro _ runners _ ⟨rfl, rfl⟩
  refine mono (each _ fun runner _ => calls runner) ?_
  rintro _ _ _ ⟨rfl, rfl⟩
  exact ⟨rfl, runners, by simp [runnerStops, List.map_eq_flatMap]⟩

/-- The steps from `starting` to the last runner follow their part of the itinerary. -/
theorem launch_follows (fresh : launch.bus.phase = none) (gathered : Gathered application)
    (given : List String) :
    StepM.Follows (application.launch gathered.store given) launch fun order container last =>
      last.bus = { launch.bus with phase := some .started } ∧ last.created = some container ∧
        ∃ found : Found application, found.toGathered = gathered ∧ container = found.container ∧
          last.settings = found.settings ∧
          order = launchStops given launch.bus.listeners found := by
  refine bind (LaunchM.dispatch_follows (LifecycleBus.give_follows (by rw [fresh]; rfl))) ?_
  rintro _ _ _ ⟨rfl, rfl⟩
  refine bind (ofCheck (.ofCall (.readArguments given) id rfl (by rintro (_ | _) <;> rfl)
    ⟨.ok default, _, rfl⟩)) ?_
  rintro _ arguments _ ⟨rfl, rfl⟩
  refine bind (prepareEnvironment_follows rfl _ _) ?_
  rintro _ environment _ ⟨settings, rfl, rfl⟩
  refine bind (printBanner_follows _) ?_
  rintro _ banner _ ⟨rfl, rfl⟩
  refine bind createContainer_follows ?_
  rintro _ container _ ⟨rfl, rfl⟩
  refine bind (equip_follows _ _) ?_
  rintro _ _ _ ⟨rfl, rfl⟩
  refine bind (prepareContainer_follows rfl _ _ _ _ _) ?_
  rintro _ _ _ ⟨rfl, initializers, actions, rfl⟩
  refine bind (registerForShutdown_follows _) ?_
  rintro _ _ _ ⟨rfl, rfl⟩
  refine bind (ofCheck (.ofCall (.refresh container) id rfl (by rintro (_ | _) <;> rfl)
    ⟨.ok (), (), rfl⟩)) ?_
  rintro _ _ _ ⟨rfl, rfl⟩
  refine bind (afterRefresh_follows _ _) ?_
  rintro _ _ _ ⟨rfl, rfl⟩
  refine bind logStarted_follows ?_
  rintro _ _ _ ⟨rfl, rfl⟩
  refine bind (LaunchM.dispatch_follows (LifecycleBus.give_follows rfl)) ?_
  rintro _ _ _ ⟨rfl, rfl⟩
  refine bind (callRunners_follows _ _) ?_
  rintro _ _ _ ⟨rfl, runners, rfl⟩
  refine mono (ofPure container) ?_
  rintro _ _ _ ⟨rfl, rfl, rfl⟩
  refine ⟨rfl, rfl, ⟨gathered, settings, banner, _, initializers, actions, runners⟩, rfl, rfl, rfl,
    ?_⟩
  simp [launchStops]

end Application

end Launchpad
